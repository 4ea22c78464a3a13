import KeyRecovery.Proofs.Entry.Shown

/-!
# Typing good blocks

Digits that begin a sequence of good blocks are never rejected, whatever ignored characters stand between
them.

* `Machine.Holding m t` : a sound machine that was not given up, holds the digits `t`, and rejected nothing
  with its last stroke;
* `Holding.complete_iff`, `Holding.blocks_eq` : it is at its end just if it holds 48 digits, and its blocks
  are then those that the digits are made of;
* `Holding.stroke`, `Holding.afterText` : a stroke, and a text, of which the digits go on with good blocks.
-/

namespace KeyRecovery.Machine

/-- A sound machine that was not given up, rejected nothing with its last stroke and holds digits `t`. -/
structure Holding (m : Machine) (t : List Char) : Prop extends Sound m where
  alive : m.stage ≠ .aborted
  kept : m.lastError = none
  entered : m.blocks.flatten ++ m.digits = t

theorem holding_start : Holding start [] := ⟨sound_start, nofun, rfl, rfl⟩

namespace Holding

variable {m : Machine} {t : List Char}

theorem length_eq (h : Holding m t) :
    t.length = m.blocks.length * Block.width + m.digits.length := by
  rw [← h.entered, List.length_append, Pieces.length_flatten h.width]

theorem complete_iff (h : Holding m t) : m.stage = .allBlocksValid ↔ t.length = 48 := by
  have hlen := h.length_eq
  constructor
  · intro hv
    have h8 := h.valid hv
    rw [hlen, h8, (h.full h8).1]
    rfl
  · intro h48
    have hcursor := h.cursor
    have h8 : m.blocks.length = Password.blockCount := by
      simp only [Block.width, Password.blockCount] at hlen hcursor ⊢
      omega
    by_contra hv
    have hdone := (h.full h8).2
    rw [done_eq_false_iff.2 ⟨hv, h.alive⟩] at hdone
    cases hdone

theorem done_eq_false_iff (h : Holding m t) : m.done = false ↔ t.length ≠ 48 := by
  rw [Machine.done_eq_false_iff, and_iff_left h.alive, Ne, h.complete_iff]

theorem blocks_eq {bs : List (List Char)} (h : Holding m bs.flatten)
    (hw : ∀ b ∈ bs, b.length = Block.width) (h8 : bs.length = Password.blockCount) :
    m.blocks = bs := by
  have hv : m.stage = .allBlocksValid := by
    rw [h.complete_iff, Pieces.length_flatten hw, h8]
    rfl
  have hmb := h.valid hv
  have hsame : m.blocks.flatten ++ [] = bs.flatten ++ [] := by
    have he := h.entered
    rw [(h.full hmb).1] at he
    rw [he, List.append_nil]
  apply List.ext_getElem (hmb.trans h8.symm)
  intro i hi hi'
  rw [← Pieces.take_drop_flatten h.width [] hi, ← Pieces.take_drop_flatten hw [] hi', hsame]

/-! ## Typing on -/

section Good

variable {bs : List (List Char)} (hgood : ∀ b ∈ bs, Block.fault? b = none)
include hgood

/-- A block that is completed within good blocks is one of them. -/
theorem fault?_full (h : Holding m t) {c : Char} (hpre : t ++ [c] <+: bs.flatten)
    (hfull : m.digits.length + 1 = Block.width) : Block.fault? (m.digits ++ [c]) = none := by
  have hw : ∀ b ∈ bs, b.length = Block.width := fun b hb => Block.length_of_fault?_eq_none (hgood b hb)
  have hlen := hpre.length_le
  obtain ⟨rest, hrest⟩ := hpre
  rw [Pieces.length_flatten hw, List.length_append, List.length_singleton, h.length_eq, Nat.add_assoc,
    hfull, ← Nat.succ_mul] at hlen
  have hk : m.blocks.length < bs.length := Nat.le_of_mul_le_mul_right hlen (by decide)
  have hpiece := Pieces.take_drop_flatten hw [] hk
  rw [List.append_nil, ← hrest, ← h.entered, List.append_assoc, List.append_assoc,
    List.drop_left' (Pieces.length_flatten h.width), ← List.append_assoc,
    List.take_left' (by rw [List.length_append, List.length_singleton, hfull])] at hpiece
  rw [hpiece]
  exact hgood _ (List.getElem_mem hk)

theorem press_digit (h : Holding m t) (hd : m.done = false) {c : Char} (hc : c.isDigit = true)
    (hpre : t ++ [c] <+: bs.flatten) : Holding (m.press (.digit c)) (t ++ [c]) := by
  have hsound := h.toSound.press_digit hd hc
  have halive := press_stage_ne_aborted m (.digit c) hd
  have hentered : m.blocks.flatten ++ (m.digits ++ [c]) = t ++ [c] := by
    rw [← List.append_assoc, h.entered]
  rcases Nat.lt_or_eq_of_le h.cursor with hlen | hlen
  · rw [press_digit_short c hlen] at hsound halive ⊢
    exact ⟨hsound, halive, rfl, hentered⟩
  · rw [press_digit_accepted hlen (h.fault?_full hgood hpre hlen)] at hsound halive ⊢
    refine ⟨hsound, halive, rfl, ?_⟩
    rw [List.flatten_concat, List.append_nil, hentered]

end Good

theorem press_other (h : Holding m t) (hd : m.done = false) : Holding (m.press .other) t :=
  ⟨h.toSound.press_other hd, press_stage_ne_aborted m .other hd, rfl, h.entered⟩

section Good

variable {bs : List (List Char)} (hgood : ∀ b ∈ bs, Block.fault? b = none)
  (hcount : bs.length ≤ Password.blockCount)
include hgood hcount

theorem stroke (h : Holding m t) {c : Char} (he : c ∉ Stroke.erasers)
    (hpre : t ++ [c].filter Char.isDigit <+: bs.flatten) :
    Holding (m.stroke c) (t ++ [c].filter Char.isDigit) := by
  cases hc : c.isDigit with
  | false =>
    rw [List.filter_cons_of_neg (by simp [hc]), List.filter_nil, List.append_nil]
    cases hd : m.done with
    | true => rwa [stroke_of_done hd]
    | false =>
      rw [stroke_eq hd, Stroke.ofChar_of_other hc he]
      exact h.press_other hd
  | true =>
    rw [List.filter_cons_of_pos hc, List.filter_nil] at hpre ⊢
    have hd : m.done = false := by
      have hlen := hpre.length_le
      rw [Pieces.length_flatten fun b hb => Block.length_of_fault?_eq_none (hgood b hb)] at hlen
      rw [h.done_eq_false_iff]
      simp only [List.length_append, List.length_singleton, Block.width, Password.blockCount]
        at hlen hcount
      omega
    rw [stroke_eq hd, Stroke.ofChar_of_isDigit hc]
    exact h.press_digit hgood hd hc hpre

theorem afterText (h : Holding m t) {cs : List Char} (he : ∀ c ∈ cs, c ∉ Stroke.erasers)
    (hpre : t ++ cs.filter Char.isDigit <+: bs.flatten) :
    Holding (m.typed cs) (t ++ cs.filter Char.isDigit) := by
  induction cs generalizing m t with
  | nil => simpa using h
  | cons c cs ih =>
    have hsplit : (c :: cs).filter Char.isDigit = [c].filter Char.isDigit ++ cs.filter Char.isDigit :=
      List.filter_append [c] cs
    rw [hsplit, ← List.append_assoc] at hpre ⊢
    have hstroke := h.stroke hgood hcount (he c List.mem_cons_self)
      ((List.prefix_append _ _).trans hpre)
    exact ih hstroke (fun a ha => he a (List.mem_cons_of_mem c ha)) hpre

end Good

end Holding

end KeyRecovery.Machine
