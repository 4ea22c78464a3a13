import KeyRecovery.Password.Encode
import Mathlib.Algebra.Group.Nat.Defs

/-!
# Residues and check digits

* `normalize_eq_emod` : the two loops of `Block.normalize` together are the remainder;
* `value_concat`, `value_decimals`, `decimals_value` : the number that digits denote, and back;
* `checkDigit?_eq` : a multiple of eleven ends in the check digit that its first five digits ask for.
-/

namespace KeyRecovery.Block

/-! ## The loops -/

theorem raise_nonneg (modulus : Nat) (pos : 0 < modulus) (n : Int) : 0 ≤ raise modulus pos n := by
  fun_induction raise modulus pos n with
  | case1 n h ih => exact ih
  | case2 n h => omega

theorem raise_emod (modulus : Nat) (pos : 0 < modulus) (n : Int) :
    raise modulus pos n % modulus = n % modulus := by
  fun_induction raise modulus pos n with
  | case1 n h ih => rw [ih, Int.add_emod_right]
  | case2 n h => rfl

theorem lower_eq_emod (modulus : Nat) (pos : 0 < modulus) (n : Int) (h₀ : 0 ≤ n) :
    lower modulus pos n = n % modulus := by
  fun_induction lower modulus pos n with
  | case1 n h ih => rw [ih (by omega), Int.sub_emod_right]
  | case2 n h => exact (Int.emod_eq_of_lt h₀ (by omega)).symm

theorem normalize_eq_emod (modulus : Nat) (pos : 0 < modulus) (n : Int) :
    normalize modulus pos n = n % modulus := by
  rw [normalize, lower_eq_emod _ _ _ (raise_nonneg _ _ _), raise_emod]

/-! ## Decimal digits -/

theorem isDigit_iff {c : Char} : c.isDigit = true ↔ '0' ≤ c ∧ c ≤ '9' := by
  rw [Char.isDigit_iff_toNat, Char.le_def, Char.le_def, UInt32.le_iff_toNat_le,
    UInt32.le_iff_toNat_le]
  rfl

theorem toNat_of_isDigit {c : Char} (h : c.isDigit = true) : 48 ≤ c.toNat ∧ c.toNat ≤ 57 :=
  Char.isDigit_iff_toNat.1 h

theorem digitChar_of_isDigit {c : Char} (h : c.isDigit = true) :
    Nat.digitChar (c.toNat - 48) = c := by
  have hc := toNat_of_isDigit h
  apply Char.toNat_inj.1
  rw [Nat.toNat_digitChar_of_lt_ten (by omega)]
  omega

theorem value_concat (s : List Char) (c : Char) :
    value (s ++ [c]) = 10 * value s + (c.toNat - 48) := by
  simp [value]

theorem value_decimals (w n : Nat) : value (decimals w n) = n % 10 ^ w := by
  induction w generalizing n with
  | zero => simp [decimals, value, Nat.mod_one]
  | succ w ih =>
    have hd : n % 10 < 10 := Nat.mod_lt n (by decide)
    rw [decimals, value_concat, ih, Nat.toNat_digitChar_sub_48_of_lt_ten hd, Nat.pow_succ,
      Nat.mul_comm (10 ^ w), Nat.mod_mul, Nat.add_comm]

theorem all_isDigit_decimals (w n : Nat) : (decimals w n).all Char.isDigit = true := by
  induction w generalizing n with
  | zero => rfl
  | succ w ih =>
    have hd : n % 10 < 10 := Nat.mod_lt n (by decide)
    simp [decimals, ih, hd]

theorem decimals_value {s : List Char} (h : s.all Char.isDigit = true) :
    decimals s.length (value s) = s := by
  induction hn : s.length generalizing s with
  | zero => rw [List.length_eq_zero_iff.1 hn]; rfl
  | succ n ih =>
    obtain ⟨init, c, rfl⟩ := (List.eq_nil_or_concat s).resolve_left (by rintro rfl; simp at hn)
    rw [List.concat_eq_append] at h hn ⊢
    rw [List.all_append, Bool.and_eq_true] at h
    have hc : c.isDigit = true := by simpa using h.2
    have hd := toNat_of_isDigit hc
    have hlen : init.length = n := by simpa using hn
    have hq : (10 * value init + (c.toNat - 48)) / 10 = value init := by omega
    have hr : (10 * value init + (c.toNat - 48)) % 10 = c.toNat - 48 := by omega
    rw [value_concat, decimals, hq, hr, ih h.1 hlen, digitChar_of_isDigit hc]

/-! ## The check digit -/

theorem isSixDigits_iff {s : List Char} :
    isSixDigits s = true ↔ s.length = width ∧ s.all Char.isDigit = true := by
  simp [isSixDigits]

/-- The alternating sum of all six digits is the number modulo eleven, as ten is minus one. So the
sixth digit of a multiple of eleven needs no test of its own. -/
theorem checkDigit?_eq {s : List Char} (h : isSixDigits s = true) (h₁₁ : value s % 11 = 0) :
    checkDigit? s = (s[5]?).map digitValue := by
  obtain ⟨hlen, hall⟩ := isSixDigits_iff.1 h
  match s, hlen with
  | [a, b, c, d, e, f], _ =>
    simp only [List.all_cons, List.all_nil, Bool.and_true, Bool.and_eq_true] at hall
    obtain ⟨ha, hb, hc, hd, he, hf⟩ := hall
    have ha := toNat_of_isDigit ha
    have hb := toNat_of_isDigit hb
    have hc := toNat_of_isDigit hc
    have hd := toNat_of_isDigit hd
    have he := toNat_of_isDigit he
    have hf := toNat_of_isDigit hf
    simp only [value, List.foldl_cons, List.foldl_nil] at h₁₁
    simp only [checkDigit?, normalize_eq_emod, digitValue, List.getElem?_cons_succ,
      List.getElem?_cons_zero, Option.map_some, Option.some.injEq]
    omega

end KeyRecovery.Block
