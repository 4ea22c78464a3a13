/-!
# Lists made of pieces of one width

`ps.flatten ++ rest`, where every piece of `ps` has `w` elements:

* `length_flatten` : how long the pieces are together;
* `drop_flatten`, `take_drop_flatten` : the list cut at a border, and the piece that starts there;
* `getElem?_flatten` : the `j`-th element of the `i`-th piece is the one at `i * w + j`.
-/

namespace KeyRecovery.Pieces

variable {α : Type} {w : Nat} {ps : List (List α)}

theorem length_flatten (h : ∀ p ∈ ps, p.length = w) : ps.flatten.length = ps.length * w := by
  induction ps with
  | nil => simp
  | cons p ps ih =>
    have hp : p.length = w := h p List.mem_cons_self
    rw [List.flatten_cons, List.length_append, List.length_cons, hp,
      ih fun q hq => h q (List.mem_cons_of_mem p hq), Nat.succ_mul]
    omega

theorem drop_flatten (h : ∀ p ∈ ps, p.length = w) (rest : List α) {i : Nat} (hi : i ≤ ps.length) :
    (ps.flatten ++ rest).drop (i * w) = (ps.drop i).flatten ++ rest := by
  induction i generalizing ps with
  | zero => simp
  | succ i ih =>
    cases ps with
    | nil => simp at hi
    | cons p ps =>
      have hp : p.length = w := h p List.mem_cons_self
      have hi' : i ≤ ps.length := by simpa using hi
      rw [Nat.succ_mul, Nat.add_comm, ← List.drop_drop, List.flatten_cons, List.append_assoc,
        List.drop_left' hp, ih (fun q hq => h q (List.mem_cons_of_mem p hq)) hi', List.drop_succ_cons]

theorem take_drop_flatten (h : ∀ p ∈ ps, p.length = w) (rest : List α) {i : Nat}
    (hi : i < ps.length) : ((ps.flatten ++ rest).drop (i * w)).take w = ps[i] := by
  have hp : (ps[i]).length = w := h _ (List.getElem_mem hi)
  rw [drop_flatten h rest (Nat.le_of_lt hi), List.drop_eq_getElem_cons hi, List.flatten_cons,
    List.append_assoc, List.take_left' hp]

theorem getElem?_flatten (h : ∀ p ∈ ps, p.length = w) (rest : List α) {i j : Nat}
    (hi : i < ps.length) (hj : j < w) : (ps.flatten ++ rest)[i * w + j]? = (ps[i])[j]? := by
  rw [← take_drop_flatten h rest hi, List.getElem?_take, if_pos hj, List.getElem?_drop]

end KeyRecovery.Pieces
