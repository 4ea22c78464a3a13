import KeyRecovery.Text.Numeral
import Mathlib.Data.List.Forall2
import Mathlib.Data.Nat.Digits.Defs

/-!
# Numbers in the digits of all scripts

* `Denotes c d` : a character is the digit of a value in some script;
* `decimalZeros_apart`, `decimalValue?_eq_some_iff` : it is that of one value, since no two rows share a digit;
* `Numeral s n` : a text is a number, each digit of which is of any script;
* `decimal?_eq_some_iff`, `decimal?_eq_none_iff` : the texts that are read, and as which numbers;
* `Marks s` : a text is made of digits of any kind, such as a number is, `Numeral.marks`.
-/

namespace KeyRecovery.Text

def Denotes (c : Char) (d : Nat) : Prop := d < 10 ∧ ∃ z ∈ decimalZeros, c.toNat = z + d

/-- A text is a number, the most significant digit first. Its digits need not be of one script. -/
def Numeral (s : List Char) (n : Nat) : Prop :=
  s ≠ [] ∧ ∃ ds, List.Forall₂ Denotes s ds ∧ n = Nat.ofDigits 10 ds.reverse

def Marks (s : List Char) : Prop := s ≠ [] ∧ ∀ c ∈ s, isDigitMark c = true

theorem isMarks_iff {s : List Char} : (!s.isEmpty && s.all isDigitMark) = true ↔ Marks s := by
  simp [Marks]

instance (s : List Char) : Decidable (Marks s) := decidable_of_iff _ isMarks_iff

/-! ## Digits -/

theorem decimalZeros_apart :
    ∀ z ∈ decimalZeros, ∀ z' ∈ decimalZeros, z = z' ∨ z + 10 ≤ z' ∨ z' + 10 ≤ z := by decide +kernel

theorem decimalValue?_eq_some_iff {c : Char} {d : Nat} : decimalValue? c = some d ↔ Denotes c d := by
  unfold decimalValue?
  rw [Option.map_eq_some_iff]
  constructor
  · rintro ⟨z, hz, rfl⟩
    have hrow := List.find?_some hz
    simp only [Bool.and_eq_true, decide_eq_true_eq] at hrow
    exact ⟨by omega, z, List.mem_of_find?_eq_some hz, by omega⟩
  · rintro ⟨hd, z, hz, hc⟩
    cases hfind : decimalZeros.find? fun z => z ≤ c.toNat && c.toNat < z + 10 with
    | none =>
      have hout := List.find?_eq_none.1 hfind z hz
      simp only [Bool.and_eq_true, decide_eq_true_eq] at hout
      omega
    | some z' =>
      have hrow := List.find?_some hfind
      simp only [Bool.and_eq_true, decide_eq_true_eq] at hrow
      have hapart := decimalZeros_apart z hz z' (List.mem_of_find?_eq_some hfind)
      exact ⟨z', rfl, by omega⟩

theorem isDigitMark_of_denotes {c : Char} {d : Nat} (h : Denotes c d) : isDigitMark c = true := by
  unfold isDigitMark
  rw [decimalValue?_eq_some_iff.2 h]
  rfl

/-! ## Numbers -/

theorem decimalFrom?_eq_some_iff {n m : Nat} {s : List Char} :
    decimalFrom? n s = some m ↔
      ∃ ds, List.Forall₂ Denotes s ds ∧ m = ds.foldl (fun value d => 10 * value + d) n := by
  induction s generalizing n with
  | nil =>
    simp only [decimalFrom?, Option.some.injEq, List.forall₂_nil_left_iff, exists_eq_left, List.foldl_nil]
    exact eq_comm
  | cons c s ih =>
    simp only [decimalFrom?, Option.bind_eq_some_iff, decimalValue?_eq_some_iff, ih]
    constructor
    · rintro ⟨d, hd, ds, hds, rfl⟩
      exact ⟨d :: ds, .cons hd hds, rfl⟩
    · rintro ⟨_, hall, rfl⟩
      obtain ⟨d, ds, hd, hds, rfl⟩ := List.forall₂_cons_left_iff.1 hall
      exact ⟨d, hd, ds, hds, rfl⟩

/-- Reading from the left adds up the digits by their weights. -/
theorem foldl_eq_ofDigits (ds : List Nat) :
    ds.foldl (fun value d => 10 * value + d) 0 = Nat.ofDigits 10 ds.reverse := by
  rw [Nat.ofDigits_eq_foldr, List.foldr_reverse]
  simp only [Nat.cast_id, Nat.add_comm]

theorem decimal?_eq_some_iff {s : List Char} {n : Nat} : decimal? s = some n ↔ Numeral s n := by
  unfold decimal? Numeral
  cases s with
  | nil => simp
  | cons c s =>
    simp only [List.isEmpty_cons, Bool.false_eq_true, if_false, decimalFrom?_eq_some_iff, foldl_eq_ofDigits, ne_eq,
      reduceCtorEq, not_false_eq_true, true_and]

theorem decimal?_eq_none_iff {s : List Char} : decimal? s = none ↔ ¬ ∃ n, Numeral s n := by
  simp only [← decimal?_eq_some_iff, not_exists, ← ne_eq, Option.eq_none_iff_forall_ne_some]

theorem Numeral.marks {s : List Char} {n : Nat} (h : Numeral s n) : Marks s := by
  obtain ⟨hne, ds, hds, -⟩ := h
  refine ⟨hne, fun c hc => ?_⟩
  obtain ⟨i, hi, rfl⟩ := List.getElem_of_mem hc
  exact isDigitMark_of_denotes (List.forall₂_iff_get.1 hds |>.2 i hi (hds.length_eq ▸ hi))

theorem leadingDecimals_le (s : List Char) : leadingDecimals s ≤ s.length :=
  (List.takeWhile_sublist _).length_le

end KeyRecovery.Text
