import KeyRecovery.Proofs.Password.Residue

/-!
# The good blocks

* `fault?_of_six` : the rule that six digits break, without the test of the check digit;
* `fault?_eq_none_iff` : the good blocks are the written forms of the sixteen-bit numbers;
* `shortValue_eq_ok_iff` : each is the written form of its short value alone.
-/

namespace KeyRecovery.Block

theorem fault?_of_not_six {s : List Char} (h : isSixDigits s = false) :
    fault? s = some .notSixDigits := by
  simp [fault?, h]

theorem fault?_of_six {s : List Char} (h : isSixDigits s = true) :
    fault? s =
      if value s % 11 ≠ 0 then some .notMultiple
      else if limit ≤ value s then some .tooLarge else none := by
  by_cases h₁₁ : value s % 11 = 0
  · simp [fault?, h, h₁₁, checkDigit?_eq h h₁₁]
  · simp [fault?, h, h₁₁]

theorem isSixDigits_of_fault?_eq_none {s : List Char} (h : fault? s = none) :
    isSixDigits s = true := by
  cases h6 : isSixDigits s with
  | true => rfl
  | false => rw [fault?_of_not_six h6] at h; cases h

theorem length_of_fault?_eq_none {s : List Char} (h : fault? s = none) : s.length = width :=
  (isSixDigits_iff.1 (isSixDigits_of_fault?_eq_none h)).1

theorem isDigit_of_fault?_eq_none {s : List Char} (h : fault? s = none) :
    ∀ c ∈ s, c.isDigit = true :=
  List.all_eq_true.1 (isSixDigits_iff.1 (isSixDigits_of_fault?_eq_none h)).2

/-- A bad block of six digits is no multiple of eleven, or too large. -/
theorem fault_of_six {s : List Char} {f : BlockFault} (h : isSixDigits s = true)
    (hf : fault? s = some f) : f = .notMultiple ∨ f = .tooLarge := by
  rw [fault?_of_six h] at hf
  split at hf
  · exact .inl (Option.some.inj hf).symm
  · split at hf
    · exact .inr (Option.some.inj hf).symm
    · cases hf

/-! ## Written forms -/

theorem isSixDigits_encode (n : Nat) : isSixDigits (encode n) = true :=
  isSixDigits_iff.2 ⟨length_encode n, all_isDigit_decimals _ _⟩

theorem value_encode {n : Nat} (h : n < 0x10000) : value (encode n) = 11 * n := by
  rw [encode, value_decimals]
  refine Nat.mod_eq_of_lt ?_
  simp only [width]
  omega

theorem encode_value_div {s : List Char} (h : isSixDigits s = true) (h₁₁ : value s % 11 = 0) :
    encode (value s / 11) = s := by
  obtain ⟨hlen, hall⟩ := isSixDigits_iff.1 h
  have hv : 11 * (value s / 11) = value s := by omega
  rw [encode, hv, ← hlen, decimals_value hall]

theorem fault?_eq_none_iff {s : List Char} : fault? s = none ↔ ∃ n < 0x10000, s = encode n := by
  constructor
  · intro h
    have h6 := isSixDigits_of_fault?_eq_none h
    rw [fault?_of_six h6] at h
    split at h
    · cases h
    · next h₁₁ =>
      split at h
      · cases h
      · next hlim =>
        refine ⟨value s / 11, ?_, (encode_value_div h6 (by omega)).symm⟩
        simp only [limit] at hlim
        omega
  · rintro ⟨n, hn, rfl⟩
    have hlim : 11 * n < limit := by
      simp only [limit]
      omega
    rw [fault?_of_six (isSixDigits_encode n), value_encode hn, if_neg (by omega), if_neg (by omega)]

theorem fault?_encode {n : Nat} (h : n < 0x10000) : fault? (encode n) = none :=
  fault?_eq_none_iff.2 ⟨n, h, rfl⟩

/-! ## Short values -/

theorem shortValue_of_fault {place : Int} {s : List Char} {f : BlockFault} (h : fault? s = some f) :
    shortValue place s = .error ⟨f, place, s⟩ := by
  simp [shortValue, h]

theorem shortValue_encode (place : Int) {n : Nat} (h : n < 0x10000) :
    shortValue place (encode n) = .ok n := by
  have hv : 11 * n / 11 = n := by omega
  simp [shortValue, fault?_encode h, value_encode h, hv]

theorem shortValue_eq_ok_iff {place : Int} {s : List Char} {n : Nat} :
    shortValue place s = .ok n ↔ n < 0x10000 ∧ s = encode n := by
  constructor
  · intro h
    cases hf : fault? s with
    | some f => rw [shortValue_of_fault hf] at h; cases h
    | none =>
      obtain ⟨k, hk, rfl⟩ := fault?_eq_none_iff.1 hf
      rw [shortValue_encode place hk] at h
      cases h
      exact ⟨hk, rfl⟩
  · rintro ⟨h, rfl⟩
    exact shortValue_encode place h

end KeyRecovery.Block
