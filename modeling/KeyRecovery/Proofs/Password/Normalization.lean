import KeyRecovery.Proofs.Password.Residue
import Mathlib.Data.Int.ModEq

/-!
# How long normalising takes, and where it ends

A number is brought into `[0, modulus)` by two loops, one that adds the modulus and one that subtracts it.

* `Loop` : a loop as its rounds, `Loop.unique` : it is left in one way only;
* `raise_loop`, `lower_loop` : the two loops, with their numbers of rounds;
* `Normalizes`, `normalizes_iff` : one after the other, they are left after as many rounds as the quotient is
  away from zero, at most one of them having any;
* `eq_normalize_iff` : at the one number of `[0, modulus)` that is congruent;
* `checkDigit?_of_five`, `checkDigit?_eq_none_iff` : the sum that a check digit is taken of.
-/

namespace KeyRecovery.Block

/-! ## Loops and their rounds -/

/-- While `test` holds, `body` is applied: from `n` on this is left at `r`, after `k` rounds. -/
inductive Loop (test : Int → Prop) (body : Int → Int) : Nat → Int → Int → Prop
  | leave {n : Int} (done : ¬ test n) : Loop test body 0 n n
  | round {k : Nat} {n r : Int} (goes : test n) (rest : Loop test body k (body n) r) :
    Loop test body (k + 1) n r

theorem Loop.unique {test : Int → Prop} {body : Int → Int} {k l : Nat} {n r s : Int}
    (h : Loop test body k n r) (h' : Loop test body l n s) : k = l ∧ r = s := by
  induction h generalizing l with
  | leave done =>
    cases h' with
    | leave _ => exact ⟨rfl, rfl⟩
    | round goes _ => exact absurd goes done
  | round goes _ ih =>
    cases h' with
    | leave done => exact absurd goes done
    | round _ rest =>
      obtain ⟨rfl, rfl⟩ := ih rest
      exact ⟨rfl, rfl⟩

/-- The loops of normalising, one after the other: from `n` on there are `up` additions of the modulus, then
`down` subtractions, and `r` is left. -/
def Normalizes (modulus : Nat) (n : Int) (up down : Nat) (r : Int) : Prop :=
  ∃ m, Loop (· < 0) (· + (modulus : Int)) up n m ∧
    Loop ((modulus : Int) ≤ ·) (· - (modulus : Int)) down m r

theorem Normalizes.unique {modulus up down up' down' : Nat} {n r r' : Int}
    (h : Normalizes modulus n up down r) (h' : Normalizes modulus n up' down' r') :
    up = up' ∧ down = down' ∧ r = r' := by
  obtain ⟨m, hup, hdown⟩ := h
  obtain ⟨m', hup', hdown'⟩ := h'
  obtain ⟨rfl, rfl⟩ := hup.unique hup'
  exact ⟨rfl, hdown.unique hdown'⟩

section Modulus

variable {modulus : Nat} (pos : 0 < modulus)
include pos

theorem raise_loop (n : Int) :
    Loop (· < 0) (· + (modulus : Int)) (-(n / modulus)).toNat n (raise modulus pos n) := by
  fun_induction raise modulus pos n with
  | case1 n h ih =>
    have hquotient : (n + modulus) / modulus = n / modulus + 1 := by
      rw [Int.add_ediv_of_dvd_right (dvd_refl _), Int.ediv_self (by omega)]
    have hneg : n / modulus < 0 := Int.ediv_neg_of_neg_of_pos h (by omega)
    have hrounds : (-(n / modulus)).toNat = (-((n + modulus) / modulus)).toNat + 1 := by omega
    rw [hrounds]
    exact .round h ih
  | case2 n h =>
    have hquotient : 0 ≤ n / modulus := Int.ediv_nonneg (by omega) (by omega)
    have hrounds : (-(n / modulus)).toNat = 0 := by omega
    rw [hrounds]
    exact .leave h

theorem lower_loop {n : Int} (h₀ : 0 ≤ n) :
    Loop ((modulus : Int) ≤ ·) (· - (modulus : Int)) (n / modulus).toNat n (lower modulus pos n) := by
  fun_induction lower modulus pos n with
  | case1 n h ih =>
    have hquotient : (n - modulus) / modulus = n / modulus - 1 := by
      rw [Int.sub_ediv_of_dvd n (dvd_refl _), Int.ediv_self (by omega)]
    have hrest : 0 ≤ (n - modulus) / modulus := Int.ediv_nonneg (by omega) (by omega)
    have hrounds : (n / modulus).toNat = ((n - modulus) / modulus).toNat + 1 := by omega
    rw [hrounds]
    exact .round h (ih (by omega))
  | case2 n h =>
    have hquotient : n / modulus = 0 := Int.ediv_eq_zero_of_lt h₀ (by omega)
    rw [hquotient]
    exact .leave h

theorem raise_of_nonneg {n : Int} (h : 0 ≤ n) : raise modulus pos n = n := by
  rw [raise, if_neg (by omega)]

/-- The additions stop before there is anything to subtract. -/
theorem raise_lt {n : Int} (h : n < modulus) : raise modulus pos n < modulus := by
  fun_induction raise modulus pos n with
  | case1 n hneg ih => exact ih (by omega)
  | case2 n _ => exact h

/-- After the additions the quotient is what it was, or zero if it was below. -/
theorem toNat_raise_div (n : Int) : (raise modulus pos n / modulus).toNat = (n / modulus).toNat := by
  by_cases h : n < 0
  · have hraised : raise modulus pos n / modulus = 0 :=
      Int.ediv_eq_zero_of_lt (raise_nonneg modulus pos n) (raise_lt pos (by omega))
    have hneg : n / modulus < 0 := Int.ediv_neg_of_neg_of_pos h (by omega)
    omega
  · rw [raise_of_nonneg pos (by omega)]

theorem normalizes (n : Int) :
    Normalizes modulus n (-(n / modulus)).toNat (n / modulus).toNat (normalize modulus pos n) := by
  refine ⟨raise modulus pos n, raise_loop pos n, ?_⟩
  rw [← toNat_raise_div pos n]
  exact lower_loop pos (raise_nonneg modulus pos n)

/-- The loops are left in this way, and in no other. -/
theorem normalizes_iff {n r : Int} {up down : Nat} : Normalizes modulus n up down r ↔
    up = (-(n / modulus)).toNat ∧ down = (n / modulus).toNat ∧ r = normalize modulus pos n := by
  constructor
  · exact fun h => h.unique (normalizes pos n)
  · rintro ⟨rfl, rfl, rfl⟩
    exact normalizes pos n

theorem eq_normalize_iff {n r : Int} :
    r = normalize modulus pos n ↔ 0 ≤ r ∧ r < modulus ∧ r ≡ n [ZMOD modulus] := by
  rw [normalize_eq_emod]
  constructor
  · rintro rfl
    exact ⟨Int.emod_nonneg n (by omega), Int.emod_lt_of_pos n (by omega), Int.mod_modEq n modulus⟩
  · rintro ⟨h₀, hlt, hcong⟩
    rw [← Int.emod_eq_of_lt h₀ hlt]
    exact hcong

end Modulus

/-! ## Check digits of any characters -/

theorem checkDigit?_of_five (a b c d e : Char) (rest : List Char) :
    checkDigit? (a :: b :: c :: d :: e :: rest) =
      some (normalize 11 (by decide) ((a.toNat : Int) - b.toNat + c.toNat - d.toNat + e.toNat - 48)) := by
  have hsum : digitValue a - digitValue b + digitValue c - digitValue d + digitValue e =
      (a.toNat : Int) - b.toNat + c.toNat - d.toNat + e.toNat - 48 := by
    simp only [digitValue]
    omega
  rw [checkDigit?, hsum]

theorem checkDigit?_eq_none_iff {s : List Char} : checkDigit? s = none ↔ s.length < 5 := by
  match s with
  | [] | [_] | [_, _] | [_, _, _] | [_, _, _, _] => simp [checkDigit?]
  | a :: b :: c :: d :: e :: rest => simp [checkDigit?]

/-- **Normalising ends, at the residue.** For every number and every modulus both loops are left, in one way only.
With `q` for the quotient, rounded down, there are `-q` additions if `q` is negative, `q` subtractions if it is
positive, and no other rounds; what is left is the one number of `[0, modulus)` that is congruent to the given one.
So five characters, of any script, have a check digit, from zero to ten, whatever follows them: the loops come to it
from the alternating sum of the characters' numbers less 48, to which it is congruent. Fewer than five have none. -/
theorem normalize_ends :
    (∀ (modulus : Nat) (pos : 0 < modulus) (n : Int),
      (∀ (up down : Nat) (r : Int), Normalizes modulus n up down r ↔
        up = (-(n / modulus)).toNat ∧ down = (n / modulus).toNat ∧ r = normalize modulus pos n) ∧
      ∀ r : Int, r = normalize modulus pos n ↔ 0 ≤ r ∧ r < modulus ∧ r ≡ n [ZMOD modulus]) ∧
    (∀ a b c d e : Char,
      let sum : Int := a.toNat - b.toNat + c.toNat - d.toNat + e.toNat - 48
      ∃ r : Int, 0 ≤ r ∧ r ≤ 10 ∧ r ≡ sum [ZMOD 11] ∧ (∃ up down, Normalizes 11 sum up down r) ∧
        ∀ rest : List Char, checkDigit? (a :: b :: c :: d :: e :: rest) = some r) ∧
    ∀ s : List Char, checkDigit? s = none ↔ s.length < 5 := by
  refine ⟨fun modulus pos n => ⟨fun up down r => normalizes_iff pos, fun r => eq_normalize_iff pos⟩,
    fun a b c d e => ?_, fun s => checkDigit?_eq_none_iff⟩
  intro sum
  have h₁₁ : 0 < 11 := by decide
  obtain ⟨h₀, hlt, hcong⟩ := (eq_normalize_iff h₁₁ (n := sum)).1 rfl
  exact ⟨normalize 11 h₁₁ sum, h₀, Int.le_of_lt_add_one hlt, hcong, ⟨_, _, normalizes h₁₁ sum⟩,
    checkDigit?_of_five a b c d e⟩

/-- Minus 25 is raised three times, 47 lowered four times, and the modulus itself once. A character that is no
digit takes the sum of a check digit far below zero; four characters have no check digit. -/
theorem normalize_ends_letter :
    Normalizes 11 (-25) 3 0 8 ∧ Normalizes 11 47 0 4 3 ∧ Normalizes 11 11 0 1 0 ∧
      checkDigit? ['0', 'é', '0', '0', '0', 'x'] = some 2 ∧ checkDigit? ['0', 'é', '0', '0'] = none := by
  obtain ⟨hloops, hdigits, hnone⟩ := normalize_ends
  obtain ⟨hrounds, hresidue⟩ := hloops 11 (by decide) (-185)
  have ends (n r : Int) (h : 0 ≤ r ∧ r < 11 ∧ r ≡ n [ZMOD 11]) :
      Normalizes 11 n (-(n / 11)).toNat (n / 11).toNat r :=
    ((hloops 11 (by decide) n).1 _ _ r).2 ⟨rfl, rfl, ((hloops 11 (by decide) n).2 r).2 h⟩
  obtain ⟨r, -, -, -, ⟨up, down, hends⟩, hdigit⟩ := hdigits '0' 'é' '0' '0' '0'
  have hr : r = 2 := by
    rw [((hrounds up down r).1 hends).2.2, ← (hresidue 2).2 (by decide)]
  exact ⟨ends (-25) 8 (by decide), ends 47 3 (by decide), ends 11 0 (by decide), hr ▸ hdigit ['x'],
    (hnone _).2 (by decide)⟩

end KeyRecovery.Block
