import KeyRecovery.Proofs.Password.Block
import Mathlib.Data.List.Induction
import Mathlib.Data.Nat.Digits.Defs

/-!
# What is said about a block

* `Block.SixDigits`, `Block.decimal` : the texts that are numbers of six digits, and the number written there;
* `sixDigits_iff`, `value_eq_decimal` : the tests and the folds on digits decide and compute these;
* `Block.checked`, `Block.rejection` : what is reported about a block, and a report that rejects it;
* `checked_cases` : the four reports, each with the texts that get it;
* `checked_eq_ok_iff_encode` : the good blocks again, as the written forms of the sixteen-bit numbers;
* `checked_decides` : so a block is accepted for one number at most and each number has its one block, each
  kind of rejection has its texts, and the check digit never decides.
-/

namespace KeyRecovery.Block

/-! ## Six digits and their number -/

/-- Six ASCII digits and nothing else. -/
structure SixDigits (s : List Char) : Prop where
  length : s.length = 6
  digits : ∀ c ∈ s, '0' ≤ c ∧ c ≤ '9'

def decimal (s : List Char) : Nat := Nat.ofDigits 10 (s.reverse.map fun c => c.toNat - 48)

theorem sixDigits_iff {s : List Char} : isSixDigits s = true ↔ SixDigits s := by
  rw [isSixDigits_iff, List.all_eq_true]
  constructor
  · rintro ⟨hlen, hall⟩
    exact ⟨hlen, fun c hc => isDigit_iff.1 (hall c hc)⟩
  · rintro ⟨hlen, hall⟩
    exact ⟨hlen, fun c hc => isDigit_iff.2 (hall c hc)⟩

instance (s : List Char) : Decidable (SixDigits s) := decidable_of_iff _ sixDigits_iff

theorem value_eq_decimal (s : List Char) : value s = decimal s := by
  induction s using List.reverseRecOn with
  | nil => rfl
  | append_singleton s c ih =>
    rw [value_concat, ih, decimal, decimal, List.reverse_concat, List.map_cons, Nat.ofDigits_cons,
      Nat.add_comm]

/-- The check digit never decides. -/
theorem fault?_ne_wrongCheckDigit (s : List Char) : fault? s ≠ some .wrongCheckDigit := by
  intro hf
  cases h6 : isSixDigits s with
  | false =>
    rw [fault?_of_not_six h6] at hf
    cases hf
  | true => rcases fault_of_six h6 hf with h | h <;> cases h

/-! ## Reports -/

def checked (place : Int) (s : List Char) : Except Failure Nat :=
  (shortValue place s).mapError BlockError.failure

def rejection (kind : FailureKind) (place : Int) (s : List Char) (shown reason : String) : Failure :=
  ⟨kind, "Block n°" ++ toString place ++ " (" ++ shown ++ ") invalid. " ++ reason, some place, some s⟩

section

variable (place : Int) {s : List Char}

theorem checked_of_fault {f : BlockFault} (h : fault? s = some f) :
    checked place s = .error (BlockError.failure ⟨f, place, s⟩) := by
  rw [checked, shortValue_of_fault h]
  rfl

theorem checked_of_not_six (h : ¬ SixDigits s) :
    checked place s =
      .error (rejection .malformed place s (Text.quoted s) "It has to be 6 digits.") := by
  have h6 : isSixDigits s = false := Bool.eq_false_iff.2 (mt sixDigits_iff.1 h)
  rw [checked_of_fault place (fault?_of_not_six h6)]
  rfl

theorem checked_of_not_multiple (h : SixDigits s) (h₁₁ : decimal s % 11 ≠ 0) :
    checked place s =
      .error (rejection .checksum place s (toString (decimal s)) "It has to be divisible by 11.") := by
  have hf : fault? s = some .notMultiple := by
    rw [fault?_of_six (sixDigits_iff.2 h), value_eq_decimal, if_pos h₁₁]
  rw [checked_of_fault place hf, ← value_eq_decimal]
  rfl

theorem checked_of_too_large (h : SixDigits s) (h₁₁ : decimal s % 11 = 0) (hlim : 720896 ≤ decimal s) :
    checked place s =
      .error (rejection .outOfRange place s (toString (decimal s))
        "It has to be less than 2**16 * 11 (720896).") := by
  have hf : fault? s = some .tooLarge := by
    rw [fault?_of_six (sixDigits_iff.2 h), value_eq_decimal, if_neg (not_not.2 h₁₁)]
    exact if_pos hlim
  rw [checked_of_fault place hf, ← value_eq_decimal]
  rfl

theorem checked_of_good (h : SixDigits s) (h₁₁ : decimal s % 11 = 0) (hlim : decimal s < 720896) :
    checked place s = .ok (decimal s / 11) := by
  have hf : fault? s = none := by
    rw [fault?_of_six (sixDigits_iff.2 h), value_eq_decimal, if_neg (not_not.2 h₁₁)]
    exact if_neg (Nat.not_le_of_lt hlim)
  rw [checked, shortValue, hf, value_eq_decimal]
  rfl

theorem checked_cases (s : List Char) :
    (¬ SixDigits s ∧ checked place s =
      .error (rejection .malformed place s (Text.quoted s) "It has to be 6 digits.")) ∨
    (SixDigits s ∧ decimal s % 11 ≠ 0 ∧ checked place s =
      .error (rejection .checksum place s (toString (decimal s)) "It has to be divisible by 11.")) ∨
    (SixDigits s ∧ decimal s % 11 = 0 ∧ 720896 ≤ decimal s ∧ checked place s =
      .error (rejection .outOfRange place s (toString (decimal s))
        "It has to be less than 2**16 * 11 (720896).")) ∨
    (SixDigits s ∧ decimal s % 11 = 0 ∧ decimal s < 720896 ∧ checked place s = .ok (decimal s / 11)) := by
  by_cases h : SixDigits s
  · by_cases h₁₁ : decimal s % 11 = 0
    · rcases Nat.lt_or_ge (decimal s) 720896 with hlim | hlim
      · exact .inr (.inr (.inr ⟨h, h₁₁, hlim, checked_of_good place h h₁₁ hlim⟩))
      · exact .inr (.inr (.inl ⟨h, h₁₁, hlim, checked_of_too_large place h h₁₁ hlim⟩))
    · exact .inr (.inl ⟨h, h₁₁, checked_of_not_multiple place h h₁₁⟩)
  · exact .inl ⟨h, checked_of_not_six place h⟩

theorem checked_eq_ok_iff_encode {n : Nat} : checked place s = .ok n ↔ n < 0x10000 ∧ s = encode n := by
  rw [← @shortValue_eq_ok_iff place, checked]
  cases shortValue place s <;> simp [Except.mapError]

theorem checked_eq_ok_iff {n : Nat} :
    checked place s = .ok n ↔ SixDigits s ∧ decimal s = 11 * n ∧ n ≤ 65535 := by
  rcases checked_cases place s with ⟨h, hc⟩ | ⟨h, h₁₁, hc⟩ | ⟨h, h₁₁, hlim, hc⟩ | ⟨h, h₁₁, hlim, hc⟩
  · rw [hc]
    exact iff_of_false nofun fun hn => h hn.1
  · rw [hc]
    refine iff_of_false nofun ?_
    rintro ⟨-, hn, -⟩
    omega
  · rw [hc]
    refine iff_of_false nofun ?_
    rintro ⟨-, hn, hle⟩
    omega
  · rw [hc, Except.ok.injEq]
    constructor
    · rintro rfl
      exact ⟨h, by omega, by omega⟩
    · rintro ⟨-, hn, -⟩
      omega

theorem checked_eq_error_iff {f : Failure} :
    checked place s = .error f ↔ ∃ fault, fault? s = some fault ∧ BlockError.failure ⟨fault, place, s⟩ = f := by
  cases h : fault? s with
  | none => simp [checked, shortValue, h, Except.mapError]
  | some fault => simp [checked_of_fault place h]

/-- A rejection tells where the block stands and what it is. -/
theorem located_of_checked {f : Failure} (h : checked place s = .error f) :
    f.block = some place ∧ f.value = some s ∧ f.kind ∈ [.malformed, .checksum, .outOfRange] := by
  obtain ⟨fault, -, rfl⟩ := (checked_eq_error_iff place).1 h
  refine ⟨rfl, rfl, ?_⟩
  cases fault <;> simp [BlockError.failure, BlockError.kind]

theorem exists_checked_eq_ok_iff : (∃ n, checked place s = .ok n) ↔ fault? s = none := by
  cases h : fault? s with
  | none => simp [checked, shortValue, h, Except.mapError]
  | some fault => simp [checked_of_fault place h]

/-- Which kind of rejection a text gets. -/
theorem checked_kind_iff (s : List Char) :
    ((∃ f, checked place s = .error f ∧ f.kind = .malformed) ↔ ¬ SixDigits s) ∧
    ((∃ f, checked place s = .error f ∧ f.kind = .checksum) ↔ SixDigits s ∧ decimal s % 11 ≠ 0) ∧
    ((∃ f, checked place s = .error f ∧ f.kind = .outOfRange) ↔
      SixDigits s ∧ decimal s % 11 = 0 ∧ 720896 ≤ decimal s) := by
  rcases checked_cases place s with ⟨h, hc⟩ | ⟨h, h₁₁, hc⟩ | ⟨h, h₁₁, hlim, hc⟩ | ⟨h, h₁₁, hlim, hc⟩
  · simp [hc, rejection, h]
  · simp [hc, rejection, h, h₁₁]
  · simp [hc, rejection, h, h₁₁, hlim]
  · simp [hc, h, h₁₁, hlim]

end

/-- **A block is checked for being one of the written numbers.** It is accepted with `n` just if it is six
digits that denote `11 * n`, with `n` below `2 ^ 16`, and every such `n` has one block. It is malformed just if
it is not six digits, has a bad checksum just if it denotes no multiple of eleven, however large, and is out of
range just if it denotes one that is too large. Every rejection tells the place and the text. The check digit
of six digits that denote a multiple of eleven is the last of them, so no block is rejected for it. -/
theorem checked_decides (place : Int) (s : List Char) :
    (∀ n, checked place s = .ok n ↔ SixDigits s ∧ decimal s = 11 * n ∧ n ≤ 65535) ∧
    (∀ n ≤ 65535, ∃! t, checked place t = .ok n) ∧
    ((∃ f, checked place s = .error f ∧ f.kind = .malformed) ↔ ¬ SixDigits s) ∧
    ((∃ f, checked place s = .error f ∧ f.kind = .checksum) ↔ SixDigits s ∧ decimal s % 11 ≠ 0) ∧
    ((∃ f, checked place s = .error f ∧ f.kind = .outOfRange) ↔
      SixDigits s ∧ decimal s % 11 = 0 ∧ 720896 ≤ decimal s) ∧
    (∀ f, checked place s = .error f → f.block = some place ∧ f.value = some s ∧
      f.kind ∈ [.malformed, .checksum, .outOfRange]) ∧
    (SixDigits s → decimal s % 11 = 0 → checkDigit? s = (s[5]?).map digitValue) ∧
    fault? s ≠ some .wrongCheckDigit := by
  obtain ⟨hmalformed, hchecksum, hrange⟩ := checked_kind_iff place s
  refine ⟨fun n => checked_eq_ok_iff place, fun n hn => ?_, hmalformed, hchecksum, hrange,
    fun f => located_of_checked place, fun h h₁₁ => ?_, fault?_ne_wrongCheckDigit s⟩
  · refine ⟨encode n, (checked_eq_ok_iff_encode place).2 ⟨by omega, rfl⟩, fun t ht => ?_⟩
    exact ((checked_eq_ok_iff_encode place).1 ht).2
  · rw [← value_eq_decimal] at h₁₁
    exact checkDigit?_eq (sixDigits_iff.2 h) h₁₁

/-- The largest block, its neighbours, and six digits of which one is no ASCII digit. -/
theorem checked_decides_limit :
    let s := "720885".toList
    SixDigits s ∧ decimal s = 11 * 65535 ∧ checked 3 s = .ok 65535 ∧ checkDigit? s = some 5 ∧
      (∃ f, checked 3 "720896".toList = .error f ∧ f.kind = .outOfRange ∧ f.block = some 3) ∧
      (∃ f, checked 3 "720897".toList = .error f ∧ f.kind = .checksum ∧ f.block = some 3) ∧
      (∃ f, checked 3 "72088\u0665".toList = .error f ∧ f.kind = .malformed ∧ f.block = some 3) := by
  intro s
  have hs : SixDigits s := by decide
  have hv : decimal s = 11 * 65535 := by decide
  obtain ⟨hok, -, -, -, -, -, hdigit, -⟩ := checked_decides 3 s
  obtain ⟨-, -, -, -, hrange, hplace, -⟩ := checked_decides 3 "720896".toList
  obtain ⟨-, -, -, hsum, -, hplace', -⟩ := checked_decides 3 "720897".toList
  obtain ⟨-, -, hform, -, -, hplace'', -⟩ := checked_decides 3 "72088\u0665".toList
  refine ⟨hs, hv, (hok 65535).2 ⟨hs, hv, by decide⟩, hdigit hs (by rw [hv]), ?_, ?_, ?_⟩
  · obtain ⟨f, hf, hk⟩ := hrange.2 ⟨by decide, by decide, by decide⟩
    exact ⟨f, hf, hk, (hplace f hf).1⟩
  · obtain ⟨f, hf, hk⟩ := hsum.2 ⟨by decide, by decide⟩
    exact ⟨f, hf, hk, (hplace' f hf).1⟩
  · obtain ⟨f, hf, hk⟩ := hform.2 (by decide)
    exact ⟨f, hf, hk, (hplace'' f hf).1⟩

end KeyRecovery.Block
