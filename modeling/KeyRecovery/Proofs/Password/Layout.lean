import KeyRecovery.Password.Basic
import KeyRecovery.Proofs.Pieces

/-!
# Where the blocks of a password stand

A password is seven blocks, each with its hyphen, and an eighth block: pieces of width seven, and a
last one of width six.

* `exists_of_mem_separatorPlaces`, `exists_of_not_mem_separatorPlaces` : each place of a password is a
  separator's, or that of a digit of a block;
* `join_concat`, `join_append_replicate` : joined blocks as pieces that carry their hyphens;
* `getElem?_join_digit`, `getElem?_join_separator` : the characters of joined blocks;
* `getElem?_split`, `split_eq_iff` : the characters of the pieces a text is cut into;
* `digitPlaces`, `filterMap_digitPlaces` : the other places of a text, read in order, are its pieces;
* `split_join` : cutting undoes joining;
* `length_join_eight`, `getElem?_join_eq_separator_iff` : eight joined blocks, and where their hyphens are;
* `join_split`, `split_join_exact` : joining undoes cutting, but for what stands between the blocks.
-/

namespace KeyRecovery.Password

/-- The places between the blocks. -/
def separatorPlaces : List Nat := [6, 13, 20, 27, 34, 41, 48]

theorem mem_separatorPlaces {i : Nat} :
    i ∈ separatorPlaces ↔ i < length ∧ i % stride = Block.width := by
  simp only [separatorPlaces, List.mem_cons, List.not_mem_nil, or_false, length, stride, blockCount,
    Block.width]
  omega

theorem exists_of_mem_separatorPlaces {i : Nat} (h : i ∈ separatorPlaces) :
    ∃ q, q + 1 < blockCount ∧ i = q * stride + Block.width := by
  obtain ⟨hi, hm⟩ := mem_separatorPlaces.1 h
  refine ⟨i / stride, ?_, ?_⟩
  · simp only [length, stride, blockCount, Block.width] at hi hm ⊢
    omega
  · rw [← hm, Nat.div_add_mod']

theorem exists_of_not_mem_separatorPlaces {i : Nat} (hi : i < length) (h : i ∉ separatorPlaces) :
    ∃ q < blockCount, ∃ r < Block.width, i = q * stride + r := by
  have hne : i % stride ≠ Block.width := fun e => h (mem_separatorPlaces.2 ⟨hi, e⟩)
  have hlt : i % stride < stride := Nat.mod_lt i (by decide)
  refine ⟨i / stride, ?_, i % stride, ?_, (Nat.div_add_mod' i stride).symm⟩
  · simp only [length, stride, blockCount, Block.width] at hi ⊢
    omega
  · simp only [stride] at hne hlt ⊢
    omega

/-! ## Joined blocks -/

theorem join_concat (bs : List (List Char)) (b : List Char) :
    join (bs ++ [b]) = (bs.map (· ++ [separator])).flatten ++ b := by
  unfold join
  induction bs with
  | nil => simp
  | cons a bs ih =>
    rw [List.cons_append, List.intercalate_cons_of_ne_nil (by simp), ih, List.map_cons,
      List.flatten_cons, List.append_assoc (a ++ [separator])]

theorem join_append_separator {bs : List (List Char)} (h : bs ≠ []) :
    join bs ++ [separator] = (bs.map (· ++ [separator])).flatten := by
  obtain ⟨init, last, rfl⟩ := (List.eq_nil_or_concat bs).resolve_left h
  simp [join_concat]

theorem join_append_singleton {bs : List (List Char)} (h : bs ≠ []) (b : List Char) :
    join (bs ++ [b]) = join bs ++ separator :: b := by
  rw [join_concat, ← join_append_separator h, List.append_assoc, List.singleton_append]

theorem join_append_replicate {bs : List (List Char)} (h : bs ≠ []) (k : Nat) (b : List Char) :
    join (bs ++ List.replicate k b) = join bs ++ (List.replicate k (separator :: b)).flatten := by
  induction k with
  | zero => simp
  | succ k ih =>
    rw [List.replicate_succ', ← List.append_assoc, join_append_singleton (by simp [h]), ih,
      List.replicate_succ', List.flatten_concat, List.append_assoc]

section Blocks

variable {bs : List (List Char)} (hw : ∀ b ∈ bs, b.length = Block.width)
include hw

theorem length_of_mem_pieces : ∀ p ∈ bs.map (· ++ [separator]), p.length = stride := by
  intro p hp
  obtain ⟨b, hb, rfl⟩ := List.mem_map.1 hp
  rw [List.length_append, List.length_singleton, hw b hb, stride]

theorem length_join (h : bs ≠ []) : (join bs).length + 1 = bs.length * stride := by
  have e := congrArg List.length (join_append_separator h)
  rw [Pieces.length_flatten (length_of_mem_pieces hw), List.length_map, List.length_append,
    List.length_singleton] at e
  exact e

/-- All but the last character of the pieces. -/
theorem getElem?_join {k : Nat} (h : bs ≠ []) (hk : k + 1 < bs.length * stride) :
    (join bs)[k]? = ((bs.map (· ++ [separator])).flatten ++ [])[k]? := by
  have hlen := length_join hw h
  rw [List.append_nil, ← join_append_separator h, List.getElem?_append_left (by omega)]

theorem getElem?_join_digit {i j : Nat} (hi : i < bs.length) (hj : j < Block.width) :
    (join bs)[i * stride + j]? = (bs[i])[j]? := by
  have hb : (bs[i]).length = Block.width := hw _ (List.getElem_mem hi)
  have hne : bs ≠ [] := List.ne_nil_of_length_pos (Nat.zero_lt_of_lt hi)
  have hij : i * stride + j + 1 < bs.length * stride := by
    have := Nat.mul_le_mul_right stride (Nat.succ_le_of_lt hi)
    rw [Nat.succ_mul] at this
    simp only [stride] at this ⊢
    omega
  rw [getElem?_join hw hne hij, Pieces.getElem?_flatten (length_of_mem_pieces hw) []
      (by simpa using hi) (Nat.lt_succ_of_lt hj), List.getElem_map,
    List.getElem?_append_left (by omega)]

theorem getElem?_join_separator {i : Nat} (hi : i + 1 < bs.length) :
    (join bs)[i * stride + Block.width]? = some separator := by
  have hb : (bs[i]).length = Block.width := hw _ (List.getElem_mem _)
  have hne : bs ≠ [] := List.ne_nil_of_length_pos (Nat.zero_lt_of_lt hi)
  have hij : i * stride + Block.width + 1 < bs.length * stride := by
    have := Nat.mul_le_mul_right stride hi
    simp only [Nat.succ_mul, stride] at this ⊢
    omega
  rw [getElem?_join hw hne hij, Pieces.getElem?_flatten (length_of_mem_pieces hw) []
      (by simpa using Nat.lt_of_succ_lt hi) (Nat.lt_succ_self _), List.getElem_map,
    List.getElem?_append_right (by omega), hb, Nat.sub_self, List.getElem?_cons_zero]

end Blocks

/-! ## Pieces of a text -/

@[simp] theorem length_split (p : List Char) : (split p).length = blockCount := by simp [split]

theorem getElem_split (p : List Char) {i : Nat} (hi : i < (split p).length) :
    (split p)[i] = (p.drop (i * stride)).take Block.width := by
  simp [split]

theorem getElem?_split (p : List Char) {i j : Nat} (hi : i < (split p).length)
    (hj : j < Block.width) : ((split p)[i])[j]? = p[i * stride + j]? := by
  rw [getElem_split p hi, List.getElem?_take, if_pos hj, List.getElem?_drop]

/-- No piece is wider than a block, wherever the text ends. -/
theorem length_le_of_mem_split {p b : List Char} (hb : b ∈ split p) : b.length ≤ Block.width := by
  obtain ⟨i, hi, rfl⟩ := List.getElem_of_mem hb
  rw [getElem_split]
  exact List.length_take_le _ _

theorem length_of_mem_split {p : List Char} (hp : p.length = length) :
    ∀ b ∈ split p, b.length = Block.width := by
  intro b hb
  obtain ⟨i, hi, rfl⟩ := List.getElem_of_mem hb
  rw [length_split] at hi
  rw [getElem_split, List.length_take, List.length_drop, hp]
  simp only [length, stride, blockCount, Block.width] at hi ⊢
  omega

def digitPlaces : List Nat := (List.range length).filter (· ∉ separatorPlaces)

theorem digitPlaces_eq : digitPlaces =
    (List.range blockCount).flatMap fun i => (List.range Block.width).map (i * stride + ·) := by decide

theorem filterMap_range_getElem? (s : List Char) (n : Nat) : (List.range n).filterMap (s[·]?) = s.take n := by
  induction n with
  | zero => rfl
  | succ n ih =>
    rw [List.range_succ, List.filterMap_append, ih, List.take_add_one]
    cases h : s[n]? <;> simp [h]

theorem filterMap_digitPlaces (p : List Char) : digitPlaces.filterMap (p[·]?) = (split p).flatten := by
  rw [digitPlaces_eq, List.filterMap_flatMap, List.flatMap_def, split]
  congr 2
  funext i
  rw [List.filterMap_map, ← filterMap_range_getElem?]
  simp only [Function.comp_def, List.getElem?_drop]

theorem split_eq_iff {p q : List Char} (hp : p.length = length) (hq : q.length = length) :
    split p = split q ↔ ∀ i < length, i ∉ separatorPlaces → p[i]? = q[i]? := by
  constructor
  · intro h k hk hks
    obtain ⟨i, hi, j, hj, rfl⟩ := exists_of_not_mem_separatorPlaces hk hks
    rw [← getElem?_split p (by simpa using hi) hj, ← getElem?_split q (by simpa using hi) hj]
    simp only [h]
  · intro h
    apply List.ext_getElem (by simp)
    intro i hi hi'
    have hi8 : i < blockCount := by simpa using hi
    apply List.ext_getElem?
    intro j
    by_cases hj : j < Block.width
    · rw [getElem?_split p hi hj, getElem?_split q hi' hj]
      refine h _ ?_ fun hm => ?_
      · simp only [length, stride, blockCount, Block.width] at hi8 hj ⊢
        omega
      · have := (mem_separatorPlaces.1 hm).2
        simp only [stride, Block.width] at hj this
        omega
    · have hpi := length_of_mem_split hp _ (List.getElem_mem hi)
      have hqi := length_of_mem_split hq _ (List.getElem_mem hi')
      rw [List.getElem?_eq_none (by omega), List.getElem?_eq_none (by omega)]

theorem split_join {bs : List (List Char)} (hn : bs.length = blockCount)
    (hw : ∀ b ∈ bs, b.length = Block.width) : split (join bs) = bs := by
  apply List.ext_getElem (by simp [hn])
  intro i hi hi'
  apply List.ext_getElem?
  intro j
  by_cases hj : j < Block.width
  · rw [getElem?_split _ hi hj, getElem?_join_digit hw hi' hj]
  · have hb : (bs[i]).length = Block.width := hw _ (List.getElem_mem hi')
    have hl := length_le_of_mem_split (List.getElem_mem hi)
    rw [List.getElem?_eq_none (by omega), List.getElem?_eq_none (by omega)]

/-! ## Eight joined blocks -/

section Eight

variable {bs : List (List Char)} (hn : bs.length = blockCount)
  (hw : ∀ b ∈ bs, b.length = Block.width)
include hn hw

theorem length_join_eight : (join bs).length = length := by
  have hne : bs ≠ [] := List.ne_nil_of_length_pos (by rw [hn]; decide)
  have := length_join hw hne
  rw [hn] at this
  simp only [length, stride, blockCount, Block.width] at this ⊢
  omega

theorem getElem?_join_of_mem {i : Nat} (h : i ∈ separatorPlaces) :
    (join bs)[i]? = some separator := by
  obtain ⟨q, hq, rfl⟩ := exists_of_mem_separatorPlaces h
  exact getElem?_join_separator hw (by omega)

theorem getElem?_join_eq_separator_iff (hs : ∀ b ∈ bs, separator ∉ b) {i : Nat} (hi : i < length) :
    (join bs)[i]? = some separator ↔ i ∈ separatorPlaces := by
  constructor
  · intro h
    by_cases hm : i ∈ separatorPlaces
    · exact hm
    · obtain ⟨q, hq, r, hr, rfl⟩ := exists_of_not_mem_separatorPlaces hi hm
      rw [getElem?_join_digit hw (by omega) hr] at h
      exact absurd (List.mem_of_getElem? h) (hs _ (List.getElem_mem _))
  · exact getElem?_join_of_mem hn hw

end Eight

/-! ## Cutting and joining -/

theorem join_split {p : List Char} (hp : p.length = length) :
    join (split p) = p.mapIdx fun i c => if i ∈ separatorPlaces then separator else c := by
  have hn := length_split p
  have hw := length_of_mem_split hp
  apply List.ext_getElem?
  intro k
  rw [List.getElem?_mapIdx]
  by_cases hk : k < p.length
  · rw [List.getElem?_eq_getElem hk, Option.map_some]
    by_cases hs : k ∈ separatorPlaces
    · rw [getElem?_join_of_mem hn hw hs, if_pos hs]
    · obtain ⟨i, hi, j, hj, rfl⟩ := exists_of_not_mem_separatorPlaces (hp ▸ hk) hs
      have hi' : i < (split p).length := hn ▸ hi
      rw [getElem?_join_digit hw hi' hj, getElem?_split p hi' hj, List.getElem?_eq_getElem hk, if_neg hs]
  · have hlen : (join (split p)).length = p.length := (length_join_eight hn hw).trans hp.symm
    rw [List.getElem?_eq_none (by omega), List.getElem?_eq_none (by omega), Option.map_none]

/-- **Cutting and joining fit together.** Eight blocks of six characters, whatever these are, make up 55
characters when joined, and cutting these gives the blocks back. A text of 55 characters that is cut and joined
again is the same text, with hyphens between its blocks. A text of any length is cut into eight pieces of at most
six characters, and the `j`-th character of piece `i` is the one at place `7 * i + j`, or there is none at either
place. -/
theorem split_join_exact :
    (∀ bs : List (List Char), bs.length = 8 → (∀ b ∈ bs, b.length = 6) →
      split (join bs) = bs ∧ (join bs).length = 55) ∧
    (∀ p : List Char, p.length = 55 →
      join (split p) = p.mapIdx fun i c => if i ∈ separatorPlaces then '-' else c) ∧
    ∀ p : List Char, (split p).length = 8 ∧ (∀ b ∈ split p, b.length ≤ 6) ∧
      ∀ (i j : Nat) (b : List Char), (split p)[i]? = some b → j < 6 → b[j]? = p[7 * i + j]? := by
  refine ⟨fun bs hn hw => ⟨split_join hn hw, length_join_eight hn hw⟩, fun p => join_split,
    fun p => ⟨length_split p, fun b => length_le_of_mem_split, fun i j b hb hj => ?_⟩⟩
  obtain ⟨hi, rfl⟩ := List.getElem?_eq_some_iff.1 hb
  rw [Nat.mul_comm]
  exact getElem?_split p hi hj

/-- Blocks that have hyphens inside, digits with spaces between the blocks, and a text that ends in its second
piece. -/
theorem split_join_exact_hyphens :
    let bs := List.replicate 7 ['-', '0', '-', '-', '1', '-'] ++ [['-', '-', '-', '-', '-', '-']]
    let spaced := (List.replicate 7 ['0', '0', '1', '1', '0', '0', ' ']).flatten ++ ['0', '0', '1', '1', '0', '0']
    let short := ['0', '0', '1', '1', '0', '0', '-', '2', '3']
    (split (join bs) = bs ∧ (join bs).length = 55) ∧
      join (split spaced) = spaced.map (fun c => if c = ' ' then '-' else c) ∧
      (split short).length = 8 ∧ (split short)[1]? = some ['2', '3'] ∧ ['2', '3'][1]? = short[7 * 1 + 1]? := by
  intro bs spaced short
  obtain ⟨hjoined, hcut, hpieces⟩ := split_join_exact
  obtain ⟨hcount, -, hplaces⟩ := hpieces short
  exact ⟨hjoined bs rfl (by decide), (hcut spaced rfl).trans (by decide), hcount, rfl,
    hplaces 1 1 ['2', '3'] rfl (by decide)⟩

end KeyRecovery.Password
