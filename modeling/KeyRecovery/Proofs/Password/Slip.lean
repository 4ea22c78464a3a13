import KeyRecovery.Proofs.Password.Rejection
import Mathlib.Data.Int.ModEq
import Mathlib.Algebra.Ring.Parity
import Mathlib.Data.List.Induction
import Mathlib.Tactic.Ring

/-!
# Slips of the typist

Ten is minus one modulo eleven, so a digit counts with a sign that changes from place to place, and no
single wrong digit and no exchange of digits with opposite signs leaves a multiple of eleven.

* `value_set`, `value_set_modEq` : what one other digit does to the value of a block, exactly and modulo
  eleven;
* `fault?_set`, `fault?_exchange` : the rule that a good block breaks after one other character, and after
  an exchange of two digits;
* `split_set` : one other character changes one piece of a text;
* `RejectedFor q i kind` : `q` is rejected for block `i`, counted from zero, with what stands there;
* `slip_detected` : so is every accepted password with a slip in block `i`.
-/

namespace KeyRecovery

namespace Block

/-! ## The value with one other digit -/

theorem digitValue_of_isDigit {c : Char} (h : c.isDigit = true) :
    ((c.toNat - 48 : Nat) : Int) = digitValue c := by
  have hc := toNat_of_isDigit h
  unfold digitValue
  omega

theorem digitValue_inj {c d : Char} (h : digitValue c = digitValue d) : c = d := by
  apply Char.toNat_inj.1
  unfold digitValue at h
  omega

theorem value_set {s : List Char} {j : Nat} {c d : Char} (hj : s[j]? = some d)
    (hd : d.isDigit = true) (hc : c.isDigit = true) :
    (value (s.set j c) : Int) =
      value s + (digitValue c - digitValue d) * 10 ^ (s.length - 1 - j) := by
  -- from the right, as the last digit counts once and ten times what comes before it
  induction s using List.reverseRecOn with
  | nil => cases hj
  | append_singleton s a ih =>
    have hlt := (List.getElem?_eq_some_iff.1 hj).1
    rw [List.length_append, List.length_singleton] at hlt ⊢
    rcases Nat.lt_or_eq_of_le (Nat.le_of_lt_succ hlt) with hlt | rfl
    · rw [List.getElem?_append_left hlt] at hj
      have hweight : s.length + 1 - 1 - j = s.length - 1 - j + 1 := by omega
      rw [List.set_append_left _ _ hlt, value_concat, value_concat, hweight, pow_succ]
      push_cast
      rw [ih hj]
      ring
    · rw [List.getElem?_concat_length] at hj
      obtain rfl := Option.some.inj hj
      rw [List.set_append_right _ _ (Nat.le_refl _), Nat.sub_self, List.set_cons_zero, value_concat,
        value_concat, Nat.add_sub_cancel, Nat.sub_self, pow_zero, mul_one]
      push_cast
      rw [digitValue_of_isDigit hc, digitValue_of_isDigit hd]
      ring

theorem value_set_modEq {s : List Char} {j : Nat} {c d : Char} (hj : s[j]? = some d)
    (hd : d.isDigit = true) (hc : c.isDigit = true) :
    (value (s.set j c) : Int) ≡
      value s + (digitValue c - digitValue d) * (-1) ^ (s.length - 1 - j) [ZMOD 11] := by
  have hten : (10 : Int) ≡ -1 [ZMOD 11] := rfl
  rw [value_set hj hd hc]
  exact ((hten.pow _).mul_left _).add_left _

/-! ## A good block with a slip -/

theorem isSixDigits_set {s : List Char} (h : isSixDigits s = true) {j : Nat} (hj : j < width)
    (c : Char) : isSixDigits (s.set j c) = c.isDigit := by
  obtain ⟨hlen, hall⟩ := isSixDigits_iff.1 h
  have hlen' : (s.set j c).length = width := by rw [List.length_set, hlen]
  cases hc : c.isDigit with
  | true =>
    refine isSixDigits_iff.2 ⟨hlen', List.all_eq_true.2 fun a ha => ?_⟩
    rcases List.mem_or_eq_of_mem_set ha with ha | rfl
    · exact List.all_eq_true.1 hall a ha
    · exact hc
  | false =>
    refine Bool.eq_false_iff.2 fun h6 => ?_
    have hmem : c ∈ s.set j c := List.mem_set (hlen.symm ▸ hj) c
    rw [List.all_eq_true.1 (isSixDigits_iff.1 h6).2 c hmem] at hc
    cases hc

/-- Six digits that are no multiple of eleven. -/
theorem fault?_of_not_modEq {s : List Char} (h : isSixDigits s = true)
    (h₁₁ : ¬ (value s : Int) ≡ 0 [ZMOD 11]) : fault? s = some .notMultiple := by
  have hne : value s % 11 ≠ 0 := fun h0 => h₁₁ (by unfold Int.ModEq; omega)
  rw [fault?_of_six h, if_pos hne]

theorem value_modEq_zero {s : List Char} (h : fault? s = none) : (value s : Int) ≡ 0 [ZMOD 11] := by
  obtain ⟨n, hn, rfl⟩ := fault?_eq_none_iff.1 h
  rw [value_encode hn]
  unfold Int.ModEq
  omega

/-- The difference of two digits is not a multiple of eleven, nor is twice the difference. -/
theorem digitValue_sub_not_modEq {c d : Char} (hc : c.isDigit = true) (hd : d.isDigit = true)
    (hne : d ≠ c) :
    ¬ digitValue c - digitValue d ≡ 0 [ZMOD 11] ∧
      ¬ 2 * (digitValue c - digitValue d) ≡ 0 [ZMOD 11] := by
  have hcd : digitValue d ≠ digitValue c := fun h => hne (digitValue_inj h)
  have hc := toNat_of_isDigit hc
  have hd := toNat_of_isDigit hd
  unfold Int.ModEq
  unfold digitValue at hcd ⊢
  omega

/-- A sign makes no multiple of eleven. -/
theorem mul_sign_not_modEq {x : Int} (hx : ¬ x ≡ 0 [ZMOD 11]) (k : Nat) :
    ¬ x * (-1) ^ k ≡ 0 [ZMOD 11] := by
  rcases neg_one_pow_eq_or Int k with hk | hk
  · rwa [hk, mul_one]
  · rw [hk]
    unfold Int.ModEq at hx ⊢
    omega

section Slip

variable {s : List Char} (h : fault? s = none)
include h

theorem fault?_set {j : Nat} {c d : Char} (hj : s[j]? = some d) (hne : d ≠ c) :
    fault? (s.set j c) = some (if c.isDigit then .notMultiple else .notSixDigits) := by
  have hsix := isSixDigits_of_fault?_eq_none h
  obtain ⟨hlen, hall⟩ := isSixDigits_iff.1 hsix
  have hlt : j < width := hlen ▸ (List.getElem?_eq_some_iff.1 hj).1
  cases hc : c.isDigit with
  | false => exact fault?_of_not_six ((isSixDigits_set hsix hlt c).trans hc)
  | true =>
    have hd : d.isDigit = true := List.all_eq_true.1 hall d (List.mem_of_getElem? hj)
    refine fault?_of_not_modEq ((isSixDigits_set hsix hlt c).trans hc) fun h0 => ?_
    have hsum := (value_set_modEq hj hd hc).symm.trans h0
    have hdiff := ((value_modEq_zero h).add_right _).symm.trans hsum
    rw [zero_add] at hdiff
    exact mul_sign_not_modEq (digitValue_sub_not_modEq hc hd hne).1 _ hdiff

theorem fault?_exchange {i j : Nat} {c d : Char} (hi : s[i]? = some c) (hj : s[j]? = some d)
    (hij : i < j) (hodd : (j - i) % 2 = 1) (hne : c ≠ d) :
    fault? ((s.set i d).set j c) = some .notMultiple := by
  have hsix := isSixDigits_of_fault?_eq_none h
  obtain ⟨hlen, hall⟩ := isSixDigits_iff.1 hsix
  have hjw : j < width := hlen ▸ (List.getElem?_eq_some_iff.1 hj).1
  have hc : c.isDigit = true := List.all_eq_true.1 hall c (List.mem_of_getElem? hi)
  have hd : d.isDigit = true := List.all_eq_true.1 hall d (List.mem_of_getElem? hj)
  have hsix' := (isSixDigits_set hsix (Nat.lt_trans hij hjw) d).trans hd
  refine fault?_of_not_modEq ((isSixDigits_set hsix' hjw c).trans hc) fun h0 => ?_
  have hj' : (s.set i d)[j]? = some d := by rw [List.getElem?_set_ne (Nat.ne_of_lt hij), hj]
  have hsign : (-1 : Int) ^ (s.length - 1 - i) = -(-1) ^ (s.length - 1 - j) := by
    have hexp : s.length - 1 - i = s.length - 1 - j + (j - i) := by omega
    rw [hexp, pow_add, (Nat.odd_iff.2 hodd).neg_one_pow, mul_neg_one]
  have hfirst := ((value_set_modEq hi hc hd).trans ((value_modEq_zero h).add_right _)).add_right
    ((digitValue c - digitValue d) * (-1) ^ (s.length - 1 - j))
  have hsecond := value_set_modEq hj' hd hc
  rw [List.length_set] at hsecond
  have hsum := (hsecond.trans hfirst).symm.trans h0
  have hdiff : 0 + (digitValue d - digitValue c) * (-1) ^ (s.length - 1 - i) +
      (digitValue c - digitValue d) * (-1) ^ (s.length - 1 - j) =
        2 * (digitValue c - digitValue d) * (-1) ^ (s.length - 1 - j) := by
    rw [hsign]
    ring
  rw [hdiff] at hsum
  exact mul_sign_not_modEq (digitValue_sub_not_modEq hc hd (Ne.symm hne)).2 _ hsum

end Slip

end Block

namespace Password

/-! ## A password with a slip -/

theorem split_set (p : List Char) {i j : Nat} (hj : j < Block.width) (c : Char) :
    split (p.set (i * stride + j) c) = (split p).modify i (·.set j c) := by
  apply List.ext_getElem (by simp)
  intro a ha _
  rw [List.getElem_modify, getElem_split, getElem_split]
  split
  · next hai =>
    subst hai
    rw [List.drop_set, if_neg (by omega), Nat.add_sub_cancel_left, List.take_set]
  · next hai =>
    have hstride : stride = Block.width + 1 := rfl
    rcases Nat.lt_or_gt_of_ne hai with hlt | hlt
    · have hnext := Nat.mul_le_mul_right stride (Nat.succ_le_of_lt hlt)
      rw [Nat.succ_mul] at hnext
      rw [List.drop_set, if_pos (by omega)]
    · have hnext := Nat.mul_le_mul_right stride (Nat.succ_le_of_lt hlt)
      rw [Nat.succ_mul] at hnext
      have hlen := List.length_take_le Block.width (p.drop (a * stride))
      rw [List.drop_set, if_neg (by omega), List.take_set, List.set_eq_of_length_le (by omega)]

/-- Text `q` is rejected for block `i`, counted from zero, with what stands there. -/
def RejectedFor (q : List Char) (i : Nat) (kind : FailureKind) : Prop :=
  ∃ e : PasswordError, shortValues q = .error e ∧ e.failure.kind = kind ∧
    e.failure.block = some (i + 1 : Int) ∧ e.failure.value = (split q)[i]?

section Slip

variable {p : List Char} {ns : List Nat} (h : shortValues p = .ok ns)
include h

/-- An accepted password with one block made bad is rejected for that block. -/
theorem shortValues_of_modify {q b : List Char} (hq : q.length = p.length) {i : Nat}
    {slip : List Char → List Char} (hsplit : split q = (split p).modify i slip)
    (hb : (split p)[i]? = some b) {f : BlockFault} (hf : Block.fault? (slip b) = some f) :
    shortValues q = .error (.block ⟨f, i + 1, slip b⟩) := by
  refine shortValues_eq_error_iff.2 ⟨hq.trans (shortValues_eq_ok_iff.1 h).1, i, rfl, ?_, hf, ?_⟩
  · rw [hsplit, List.getElem?_modify_eq, hb]
    rfl
  · intro a ha
    rw [hsplit, List.take_modify, List.modify_eq_self (List.length_take_le i _)] at ha
    exact good_of_mem_split h a (List.mem_of_mem_take ha)

theorem rejectedFor_of_modify {q b : List Char} (hq : q.length = p.length) {i : Nat}
    {slip : List Char → List Char} (hsplit : split q = (split p).modify i slip)
    (hb : (split p)[i]? = some b) {f : BlockFault} (hf : Block.fault? (slip b) = some f) :
    RejectedFor q i (BlockError.kind ⟨f, i + 1, slip b⟩) := by
  refine ⟨_, shortValues_of_modify h hq hsplit hb hf, rfl, rfl, ?_⟩
  rw [hsplit, List.getElem?_modify_eq, hb]
  rfl

/-- **Slips are detected.** An accepted password of which one character in block `i` is replaced by
another is rejected for that block: as malformed if the new character is no digit, and by the check sum
if it is. So it is, by the check sum, if two different digits of the block are exchanged that stand an
odd number of places apart. -/
theorem slip_detected {i : Nat} (hi : i < blockCount) :
    (∀ j < Block.width, ∀ c, p[i * stride + j]? ≠ some c →
      RejectedFor (p.set (i * stride + j) c) i (if c.isDigit then .checksum else .malformed)) ∧
    ∀ j k, j < k → k < Block.width → (k - j) % 2 = 1 → ∀ c d, p[i * stride + j]? = some c →
      p[i * stride + k]? = some d → c ≠ d →
        RejectedFor ((p.set (i * stride + j) d).set (i * stride + k) c) i .checksum := by
  have hlt : i < (split p).length := by rwa [length_split]
  have hb : (split p)[i]? = some (split p)[i] := List.getElem?_eq_getElem hlt
  have hgood := good_of_mem_split h _ (List.getElem_mem hlt)
  have hwidth : ((split p)[i]).length = Block.width :=
    length_of_mem_split (shortValues_eq_ok_iff.1 h).1 _ (List.getElem_mem hlt)
  refine ⟨fun j hj c hc => ?_, fun j k hjk hk hodd c d hc hd hne => ?_⟩
  · have hat : ((split p)[i])[j]? = some ((split p)[i])[j] := List.getElem?_eq_getElem (by omega)
    have hne : ((split p)[i])[j] ≠ c := fun e => hc (by rw [← getElem?_split p hlt hj, hat, e])
    have hrej := rejectedFor_of_modify h List.length_set (split_set p hj c) hb
      (Block.fault?_set hgood hat hne)
    cases hdig : c.isDigit <;> rw [hdig] at hrej <;> exact hrej
  · have hj : j < Block.width := Nat.lt_trans hjk hk
    have hsplit : split ((p.set (i * stride + j) d).set (i * stride + k) c) =
        (split p).modify i fun b => (b.set j d).set k c := by
      rw [split_set _ hk, split_set _ hj, List.modify_modify_eq]
      rfl
    rw [← getElem?_split p hlt hj] at hc
    rw [← getElem?_split p hlt hk] at hd
    exact rejectedFor_of_modify h (by simp) hsplit hb (Block.fault?_exchange hgood hc hd hjk hodd hne)

end Slip

/-- A first digit that takes a block beyond the limit, two neighbours that do so when they are exchanged,
and a letter. -/
theorem slip_detected_limit :
    let p := encode [12345, 100, 54321, 7, 65535, 1000, 4242, 31337]
    let larger := "135795-001100-597531-000077-920885-011000-046662-344707".toList
    let exchanged := "135795-001100-957531-000077-720885-011000-046662-344707".toList
    let lettered := "135795-001100-597531-000077-720885-011000-046662-34470x".toList
    (∃ ns, shortValues p = .ok ns) ∧ RejectedFor larger 4 .checksum ∧
      RejectedFor exchanged 2 .checksum ∧ RejectedFor lettered 7 .malformed := by
  intro p larger exchanged lettered
  have h : shortValues p = .ok _ := shortValues_encode rfl (by decide)
  have hlarger : p.set (4 * stride + 0) '9' = larger := by decide
  have hexchanged : (p.set (2 * stride + 0) '9').set (2 * stride + 1) '5' = exchanged := by decide
  have hlettered : p.set (7 * stride + 5) 'x' = lettered := by decide
  rw [← hlarger, ← hexchanged, ← hlettered]
  exact ⟨⟨_, h⟩, (slip_detected h (by decide)).1 0 (by decide) '9' (by decide),
    (slip_detected h (by decide)).2 0 1 (by decide) (by decide) rfl '5' '9' (by decide) (by decide)
      (by decide),
    (slip_detected h (by decide)).1 5 (by decide) 'x' (by decide)⟩

end Password

end KeyRecovery
