import KeyRecovery.Proofs.Password.Rejection

/-!
# The digits of an accepted password

An accepted password may have anything between its blocks. Where no digit stands there, its digits are
those of its blocks.

* `Between` : what is said of every character between the blocks;
* `isDigit_or_separator` : the characters of an accepted password;
* `filter_take_blocks`, `filter_isDigit` : its digits are those of its blocks, in order;
* `length_filter_take` : all 48 of them are there with the last character, and not before.
-/

namespace KeyRecovery.Password

def Between (P : Char → Prop) (p : List Char) : Prop :=
  ∀ i ∈ separatorPlaces, ∀ c ∈ p[i]?, P c

-- written out, because instance search may decide this by going through all characters
instance (P : Char → Prop) [DecidablePred P] (p : List Char) : Decidable (Between P p) :=
  @List.decidableBAll Nat (fun i => ∀ c ∈ p[i]?, P c) (fun i => Option.decidableForallMem p[i]?)
    separatorPlaces

section Accepted

variable {p : List Char} {ns : List Nat} (h : shortValues p = .ok ns)
include h

theorem isDigit_or_separator {i : Nat} {c : Char} (hc : p[i]? = some c) :
    c.isDigit = true ∨ i ∈ separatorPlaces := by
  have hlen := (shortValues_eq_ok_iff.1 h).1
  have hi : i < length := hlen ▸ (List.getElem?_eq_some_iff.1 hc).1
  by_cases hs : i ∈ separatorPlaces
  · exact .inr hs
  · obtain ⟨q, hq, r, hr, rfl⟩ := exists_of_not_mem_separatorPlaces hi hs
    have hq' : q < (split p).length := by rwa [length_split]
    rw [← getElem?_split p hq' hr] at hc
    have hgood := good_of_mem_split h _ (List.getElem_mem hq')
    exact .inl (Block.isDigit_of_fault?_eq_none hgood c (List.mem_of_getElem? hc))

section Separators

variable (hs : Between (fun c => c.isDigit = false) p)
include hs

theorem filter_take_blocks {n : Nat} (hn : n ≤ blockCount) :
    (p.take (n * stride)).filter Char.isDigit = ((split p).take n).flatten := by
  induction n with
  | zero => simp
  | succ n ih =>
    have hlt : n < (split p).length := by rwa [length_split]
    have hpiece : ((p.drop (n * stride)).take Block.width).filter Char.isDigit = (split p)[n] := by
      have hgood := good_of_mem_split h _ (List.getElem_mem hlt)
      rw [← getElem_split p hlt]
      exact List.filter_eq_self.2 (Block.isDigit_of_fault?_eq_none hgood)
    have hnext : ((p.drop (n * stride + Block.width)).take 1).filter Char.isDigit = [] := by
      rw [List.take_one, List.head?_drop]
      cases hc : p[n * stride + Block.width]? with
      | none => rfl
      | some c =>
        have hlen := (List.getElem?_eq_some_iff.1 hc).1
        rw [(shortValues_eq_ok_iff.1 h).1] at hlen
        have hmem : n * stride + Block.width ∈ separatorPlaces := by
          refine mem_separatorPlaces.2 ⟨hlen, ?_⟩
          simp only [stride, Block.width]
          omega
        simp [hs _ hmem c hc]
    have hstride : (n + 1) * stride = n * stride + (Block.width + 1) := Nat.succ_mul n stride
    rw [hstride, List.take_add, List.take_add, List.drop_drop, List.filter_append, List.filter_append,
      ih (Nat.le_of_succ_le hn), hpiece, hnext, List.append_nil, List.take_succ_eq_append_getElem hlt,
      List.flatten_concat]

theorem filter_isDigit : p.filter Char.isDigit = (split p).flatten := by
  have hall := filter_take_blocks h hs (Nat.le_refl _)
  rwa [List.take_of_length_le (by rw [(shortValues_eq_ok_iff.1 h).1]; decide),
    List.take_of_length_le (Nat.le_of_eq (length_split p))] at hall

theorem length_filter_isDigit : (p.filter Char.isDigit).length = 48 := by
  rw [filter_isDigit h hs, Pieces.length_flatten (length_of_mem_split (shortValues_eq_ok_iff.1 h).1),
    length_split]
  rfl

theorem length_filter_take {j : Nat} (hj : j ≤ 55) :
    ((p.take j).filter Char.isDigit).length = 48 ↔ j = 55 := by
  have hlen : p.length = 55 := (shortValues_eq_ok_iff.1 h).1
  constructor
  · intro h48
    by_contra hne
    have hbound : 54 < p.length := by omega
    have hlast : p[54]? = some p[54] := List.getElem?_eq_getElem hbound
    have hdigit := (isDigit_or_separator h hlast).resolve_right (by decide)
    have hmem : p[54] ∈ (p.drop j).filter Char.isDigit := by
      refine List.mem_filter.2 ⟨List.mem_of_getElem? (i := 54 - j) ?_, hdigit⟩
      rw [List.getElem?_drop, ← hlast]
      congr 1
      omega
    have hsum := congrArg List.length (List.filter_append (p.take j) (p.drop j) (p := Char.isDigit))
    rw [List.take_append_drop, List.length_append, length_filter_isDigit h hs, h48] at hsum
    have := List.length_pos_of_mem hmem
    omega
  · rintro rfl
    rw [List.take_of_length_le (Nat.le_of_eq hlen), length_filter_isDigit h hs]

end Separators

end Accepted

end KeyRecovery.Password
