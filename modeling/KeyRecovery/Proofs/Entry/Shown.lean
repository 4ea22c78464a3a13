import KeyRecovery.Proofs.Entry.Decision

/-!
# The shown digits

* `Machine.shown` : the committed blocks and the digits in progress, as they stand behind a prompt;
* `Sound.mem_shown` : these are digits and hyphens;
* `Sound.length_shown` : how many, as long as there is room for another block;
* `Sound.shown_stroke` : what a stroke does to them. A stroke that rejects nothing adds at the end or, if it
  erases, takes away no more than two characters;
* `Sound.shown_unchanged` : a stroke that leaves nothing to draw leaves them as they are.
-/

namespace KeyRecovery

namespace Stroke

theorem ofChar_of_mem {c : Char} (h : c ∈ erasers) : ofChar c = .erase := by
  simp [ofChar, h]

theorem ofChar_of_not_mem {c : Char} (h : c ∉ erasers) : ofChar c = .digit c ∨ ofChar c = .other := by
  by_cases hd : c.isDigit <;> simp [ofChar, h, hd]

/-- No digit erases or aborts. -/
theorem not_mem_of_isDigit {c : Char} (h : c.isDigit = true) : c ∉ erasers ∧ c ∉ aborters := by
  have hne (a : Char) (ha : a.isDigit = false) : c ≠ a := fun e => by
    rw [e, ha] at h
    cases h
  constructor <;> simp only [erasers, aborters, List.mem_cons, List.not_mem_nil, or_false, not_or] <;>
    exact ⟨hne _ rfl, hne _ rfl⟩

theorem ofChar_of_isDigit {c : Char} (h : c.isDigit = true) : ofChar c = .digit c := by
  simp [ofChar, (not_mem_of_isDigit h).1, h]

theorem ofChar_of_other {c : Char} (hd : c.isDigit = false) (he : c ∉ erasers) :
    ofChar c = .other := by
  simp [ofChar, hd, he]

end Stroke

namespace Machine

open Password (separator)

def shown (m : Machine) : List Char := m.committed ++ m.digits

theorem line_eq (prompt : List Char) (m : Machine) : m.line prompt = prompt ++ m.shown := by
  rw [line, shown, List.append_assoc]

theorem shown_start : start.shown = [] := rfl

/-- With room for another block, every committed block has its hyphen. -/
theorem committed_of_room {m : Machine} (h : m.blocks.length < Password.blockCount) :
    m.committed = (m.blocks.map (· ++ [separator])).flatten := by
  by_cases hb : m.blocks = []
  · simp [committed, hb, Password.join]
  · rw [← Password.join_append_separator hb, committed, if_neg]
    simp [hb, h]

theorem shown_of_room {m : Machine} (h : m.blocks.length < Password.blockCount) :
    m.shown = (m.blocks.map (· ++ [separator])).flatten ++ m.digits := by
  rw [shown, committed_of_room h]

namespace Sound

variable {m : Machine}

theorem mem_shown (h : Sound m) : ∀ c ∈ m.shown, c.isDigit = true ∨ c = separator := by
  intro c hc
  rcases List.mem_append.1 hc with hc | hc
  · have hj : c ∈ (m.blocks.map (· ++ [separator])).flatten := by
      by_cases hb : m.blocks = []
      · simp [committed, hb, Password.join] at hc
      · rw [← Password.join_append_separator hb]
        unfold committed at hc
        split at hc
        · exact List.mem_append_left _ (by simpa using hc)
        · exact hc
    obtain ⟨p, hp, hcp⟩ := List.mem_flatten.1 hj
    obtain ⟨b, hb, rfl⟩ := List.mem_map.1 hp
    rcases List.mem_append.1 hcp with hcb | hcs
    · exact .inl (Block.isDigit_of_fault?_eq_none (h.good b hb) c hcb)
    · exact .inr (List.mem_singleton.1 hcs)
  · exact .inl (h.typed c hc)

/-- No control character is shown. -/
theorem not_mem_shown (h : Sound m) {c : Char} (hd : c.isDigit = false) (hs : c ≠ separator) :
    c ∉ m.shown := by
  intro hc
  rcases h.mem_shown c hc with hc | hc
  · rw [hd] at hc
    cases hc
  · exact hs hc

theorem length_shown (h : Sound m) (hr : m.blocks.length < Password.blockCount) :
    m.shown.length = m.blocks.length * Password.stride + m.digits.length := by
  rw [shown_of_room hr, List.length_append,
    Pieces.length_flatten (Password.length_of_mem_pieces h.width), List.length_map]

/-! ## What a stroke does -/

/-- A digit adds itself, and a hyphen if it completes a block; or it ends the block or the entry. -/
theorem shown_press_digit (h : Sound m) (hd : m.done = false) (c : Char) :
    (∃ e, (m.press (.digit c)).lastError = some e) ∨ (m.press (.digit c)).stage = .allBlocksValid ∨
      ∃ t, (m.press (.digit c)).shown = m.shown ++ t := by
  have hr := h.room hd
  rcases Nat.lt_or_eq_of_le h.cursor with hlen | hlen
  · refine .inr (.inr ⟨[c], ?_⟩)
    rw [press_digit_short c hlen]
    exact (List.append_assoc m.committed m.digits [c]).symm
  · cases hf : Block.fault? (m.digits ++ [c]) with
    | some f => exact .inl ⟨_, by rw [press_digit_rejected hlen hf]⟩
    | none =>
      rw [press_digit_accepted hlen hf]
      by_cases h8 : Password.blockCount ≤ m.blocks.length + 1
      · exact .inr (.inl (if_pos h8))
      · refine .inr (.inr ⟨[c, separator], ?_⟩)
        rw [shown_of_room hr, shown_of_room (by simpa using h8)]
        simp

/-- An erasure takes away a digit, or the hyphen and the last digit of a block. -/
theorem shown_press_erase (h : Sound m) (hd : m.done = false) :
    ∃ t, m.shown = (m.press .erase).shown ++ t ∧ t.length ≤ 2 := by
  by_cases hdig : m.digits = []
  · rcases List.eq_nil_or_concat m.blocks with hb | ⟨bs, b, hb⟩
    · refine ⟨[], ?_, Nat.zero_le _⟩
      rw [press_erase_nothing hdig hb, shown, shown, hdig, committed, hb]
      rfl
    · rw [List.concat_eq_append] at hb
      have hr : bs.length + 1 < Password.blockCount := by simpa [hb] using h.room hd
      have hw : b.length = Block.width := h.width b (by simp [hb])
      refine ⟨b.drop (Block.width - 1) ++ [separator], ?_, ?_⟩
      · rw [press_erase_block hdig hb, shown_of_room (h.room hd),
          shown_of_room (Nat.lt_of_succ_lt hr), hb, hdig, List.append_assoc,
          ← List.append_assoc (b.take _), List.take_append_drop]
        simp
      · rw [List.length_append, List.length_drop, hw]
        decide
  · refine ⟨[m.digits.getLast hdig], ?_, Nat.le_succ 1⟩
    rw [press_erase_digit hdig]
    show m.committed ++ m.digits = (m.committed ++ m.digits.dropLast) ++ _
    rw [List.append_assoc, List.dropLast_concat_getLast]

theorem shown_stroke (h : Sound m) (hd : m.done = false) {c : Char}
    (hv : (m.stroke c).stage ≠ .allBlocksValid) :
    (∃ e, (m.stroke c).lastError = some e) ∨
    (c ∈ Stroke.erasers ∧ ∃ t, m.shown = (m.stroke c).shown ++ t ∧ t.length ≤ 2) ∨
    (c ∉ Stroke.erasers ∧ ∃ t, (m.stroke c).shown = m.shown ++ t) := by
  rw [stroke_eq hd] at hv ⊢
  by_cases he : c ∈ Stroke.erasers
  · rw [Stroke.ofChar_of_mem he]
    exact .inr (.inl ⟨he, h.shown_press_erase hd⟩)
  · rcases Stroke.ofChar_of_not_mem he with hc | hc
    · rw [hc] at hv ⊢
      rcases h.shown_press_digit hd c with hrej | hval | hgrow
      · exact .inl hrej
      · exact absurd hval hv
      · exact .inr (.inr ⟨he, hgrow⟩)
    · rw [hc]
      exact .inr (.inr ⟨he, [], (List.append_nil _).symm⟩)

theorem shown_unchanged (h : Sound m) (hd : m.done = false) {c : Char}
    (hv : (m.stroke c).stage ≠ .allBlocksValid) (hu : Dialogue.unchanged m (m.stroke c) = true) :
    (m.stroke c).shown = m.shown := by
  simp only [Dialogue.unchanged, Bool.and_eq_true, beq_iff_eq, Option.isNone_iff_eq_none] at hu
  obtain ⟨⟨hblocks, hcursor⟩, hlast⟩ := hu
  have hlen : (m.stroke c).shown.length = m.shown.length := by
    rw [(h.stroke c).length_shown (hblocks ▸ h.room hd), h.length_shown (h.room hd), hblocks]
    exact congrArg _ hcursor
  rcases h.shown_stroke hd hv with ⟨e, he⟩ | ⟨-, t, ht, -⟩ | ⟨-, t, ht⟩
  · rw [he] at hlast
    cases hlast
  · have ht0 : t = [] := by simpa [ht] using hlen
    rw [ht, ht0, List.append_nil]
  · have ht0 : t = [] := by simpa [ht] using hlen
    rw [ht, ht0, List.append_nil]

end Sound

end Machine

end KeyRecovery
