import KeyRecovery.Text.Blank
import Mathlib.Data.List.DropRight

/-!
# White space around a text

* `Text.Blank` : nothing but white space;
* `Text.exists_eq_append_trim` : what trimming drops is blank;
* `Text.trim_append_of_blank`, `Text.trim_append_blank` : and all that is blank at an end is dropped;
* `Text.trim_cons_of_not_blank` : a text that starts with something else is trimmed at its back only.
-/

namespace KeyRecovery.Text

def Blank (s : List Char) : Prop := ∀ c ∈ s, isBlank c = true

theorem trim_eq (s : List Char) : trim s = (s.dropWhile isBlank).rdropWhile isBlank := rfl

theorem exists_eq_append_trim (s : List Char) : ∃ v w, Blank v ∧ Blank w ∧ s = v ++ trim s ++ w := by
  refine ⟨s.takeWhile isBlank, (s.dropWhile isBlank).rtakeWhile isBlank, fun c => List.mem_takeWhile_imp,
    fun c => List.mem_rtakeWhile_imp, ?_⟩
  rw [trim_eq, List.append_assoc, List.rdropWhile_append_rtakeWhile, List.takeWhile_append_dropWhile]

theorem trim_of_blank {s : List Char} (h : Blank s) : trim s = [] := by
  rw [trim_eq, List.dropWhile_eq_nil_iff.2 h, List.rdropWhile_nil]

theorem rdropWhile_append_blank (s : List Char) {w : List Char} (h : Blank w) :
    (s ++ w).rdropWhile isBlank = s.rdropWhile isBlank := by
  rw [List.rdropWhile, List.reverse_append,
    List.dropWhile_append_of_pos fun c hc => h c (List.mem_reverse.1 hc), List.rdropWhile]

theorem trim_append_of_blank {v : List Char} (h : Blank v) (s : List Char) : trim (v ++ s) = trim s := by
  rw [trim_eq, trim_eq, List.dropWhile_append_of_pos h]

theorem trim_append_blank (s : List Char) {w : List Char} (h : Blank w) : trim (s ++ w) = trim s := by
  by_cases hs : Blank s
  · rw [trim_append_of_blank hs, trim_of_blank h, trim_of_blank hs]
  · have hne : ¬ (s.dropWhile isBlank).isEmpty := fun he =>
      hs (List.dropWhile_eq_nil_iff.1 (List.isEmpty_iff.1 he))
    rw [trim_eq, trim_eq, List.dropWhile_append, if_neg hne, rdropWhile_append_blank _ h]

theorem rdropWhile_cons_of_not_blank {c : Char} (h : isBlank c = false) (s : List Char) :
    (c :: s).rdropWhile isBlank = c :: s.rdropWhile isBlank := by
  induction s using List.reverseRecOn with
  | nil => rw [List.rdropWhile_nil, List.rdropWhile_singleton, h]; rfl
  | append_singleton s d ih =>
    rw [← List.cons_append, List.rdropWhile_concat, List.rdropWhile_concat, ih]
    split <;> rfl

theorem trim_cons_of_not_blank {c : Char} (h : isBlank c = false) (s : List Char) :
    trim (c :: s) = c :: s.rdropWhile isBlank := by
  rw [trim_eq, List.dropWhile_cons_of_neg (Bool.eq_false_iff.1 h), rdropWhile_cons_of_not_blank h]

end KeyRecovery.Text
