import KeyRecovery.Proofs.Entry.Invariant
import Mathlib.Data.List.Induction

/-!
# The entry machine is a flat line of digits

* `Tracks m l` : the digits of line `l` are the blocks of a sound machine `m` and its digits in
  progress, and the two stand at the same place of an entry;
* `Tracks.blocks_eq`, `Tracks.digits_eq`, `Tracks.line_eq`, `Tracks.password_eq` : what a tracked line
  tells of the machine;
* `Tracks.type`, `Tracks.abort`, `Tracks.perform` : every action keeps the two together;
* `after_eq_line` : so they are together after every list of actions.
-/

namespace KeyRecovery

/-- Typing on a line by the machine's reading of a text. -/
theorem Line.type_eq (l : Line) (text : List Char) :
    l.type text = match Stroke.ofText text with
      | .erase => l.erase
      | .digit c => l.append c
      | .other => l := by
  rcases text with _ | ⟨c, _ | ⟨d, rest⟩⟩
  · rfl
  · simp only [Line.type, Stroke.ofText, Stroke.ofChar, Stroke.erasers, List.contains_eq_mem,
      List.mem_cons, List.not_mem_nil, or_false, decide_eq_true_eq, Block.isDigit_iff]
    split_ifs <;> rfl
  · rfl

namespace Machine

structure Tracks (m : Machine) (l : Line) : Prop extends Sound m where
  typed_eq : l.digits = m.blocks.flatten ++ m.digits
  done_iff : m.stage = .allBlocksValid ↔ l.status = .done
  aborted_iff : m.stage = .aborted ↔ l.status = .aborted

theorem tracks_start : Tracks start Line.start := ⟨sound_start, rfl, by decide, by decide⟩

/-! ## What the line tells -/

namespace Tracks

variable {m : Machine} {l : Line}

theorem done_eq_false (h : Tracks m l) : m.done = false ↔ l.status = .taking := by
  rw [done_eq_false_iff, ne_eq, ne_eq, h.done_iff, h.aborted_iff]
  cases l.status <;> simp

theorem length_digits (h : Tracks m l) :
    l.digits.length = m.blocks.length * Block.width + m.digits.length := by
  rw [h.typed_eq, List.length_append, Pieces.length_flatten h.width]

/-- The full groups of the line are the blocks of the machine. -/
theorem groups (h : Tracks m l) : l.digits.length / Block.width = m.blocks.length := by
  have hc := h.cursor
  rw [h.length_digits]
  simp only [Block.width] at hc ⊢
  omega

theorem blocks_eq (h : Tracks m l) : m.blocks = l.blocks := by
  unfold Line.blocks
  rw [h.groups, h.typed_eq]
  apply List.ext_getElem (by simp)
  intro i hi hi'
  rw [List.getElem_map, List.getElem_range, Pieces.take_drop_flatten h.width _ hi]

theorem digits_eq (h : Tracks m l) : m.digits = l.rest := by
  rw [Line.rest, h.groups, h.typed_eq, Pieces.drop_flatten h.width _ (Nat.le_refl _)]
  simp

end Tracks

/-- The committed blocks as groups of a line. -/
theorem committed_eq {m : Machine} (h : m.blocks.length ≤ Password.blockCount) :
    m.committed = (m.blocks.mapIdx Line.shownGroup).flatten := by
  rcases List.eq_nil_or_concat m.blocks with hb | ⟨bs, b, hb⟩
  · simp [committed, hb, Password.join]
  · rw [List.concat_eq_append] at hb
    rw [hb, List.length_append, List.length_singleton] at h
    have hmap : bs.mapIdx Line.shownGroup = bs.map (· ++ [Password.separator]) := by
      apply List.ext_getElem (by simp)
      intro i hi _
      have hi' : i < bs.length := by simpa using hi
      rw [List.getElem_mapIdx, List.getElem_map, Line.shownGroup, if_neg (by omega)]
    rw [committed, hb, Password.join_concat, List.mapIdx_concat, hmap, List.flatten_concat,
      List.append_assoc, Line.shownGroup]
    congr 1
    by_cases h8 : bs.length + 1 = Password.blockCount
    · simp [h8]
    · have h8' : ¬ Password.blockCount ≤ bs.length + 1 := by omega
      simp [h8, h8']

namespace Tracks

variable {m : Machine} {l : Line}

theorem shown_eq (h : Tracks m l) : l.shown = m.committed ++ m.digits := by
  rw [Line.shown, ← h.blocks_eq, ← h.digits_eq, committed_eq h.count]

theorem line_eq (h : Tracks m l) (prompt : List Char) : m.line prompt = prompt ++ l.shown := by
  rw [line, h.shown_eq, List.append_assoc]

theorem password_eq (h : Tracks m l) :
    m.password? = if l.status = .done then some l.shown else none := by
  by_cases hv : m.stage = .allBlocksValid
  · have h8 := h.valid hv
    have hcommitted : m.committed = Password.join m.blocks := by simp [committed, h8]
    rw [password?, if_pos hv, if_pos (h.done_iff.1 hv), h.shown_eq, hcommitted, (h.full h8).1,
      List.append_nil]
  · rw [password?, if_neg hv, if_neg (mt h.done_iff.2 hv)]

end Tracks

/-! ## What an action does to the two -/

namespace Tracks

variable {m : Machine} {l : Line}

/-- The digits with one more, cut where the last full group of the machine ends. -/
theorem typed_eq_concat (h : Tracks m l) (c : Char) :
    l.digits ++ [c] = m.blocks.flatten ++ (m.digits ++ [c]) := by
  rw [h.typed_eq, List.append_assoc]

theorem length_concat (h : Tracks m l) (c : Char) :
    (l.digits ++ [c]).length = m.blocks.length * Block.width + (m.digits.length + 1) := by
  rw [List.length_append, h.length_digits, List.length_singleton, Nat.add_assoc]

/-- A digit that leaves the block open. -/
theorem press_short (h : Tracks m l) (ht : l.status = .taking) {c : Char} (hd : c.isDigit = true)
    (hc : m.digits.length + 1 < Block.width) :
    Tracks (m.press (.digit c)) (l.append c) := by
  have hsound := h.press_digit (h.done_eq_false.2 ht) hd
  have hlen := h.length_concat c
  have hmod : ¬ (l.digits ++ [c]).length % Block.width = 0 := by
    rw [hlen]; simp only [Block.width] at hc ⊢; omega
  have hfull : ¬ (l.digits ++ [c]).length = Password.blockCount * Block.width := by
    intro e; rw [e] at hmod; exact hmod (by decide)
  have hl : l.append c = { l with digits := l.digits ++ [c] } := by
    simp only [Line.append, hmod, hfull, false_and, if_false]
  rw [press_digit_short c hc] at hsound ⊢
  rw [hl]
  exact ⟨hsound, h.typed_eq_concat c, by simp [ht], by simp [ht]⟩

/-- A digit that completes a block, with what the line makes of it. -/
theorem press_full (h : Tracks m l) (ht : l.status = .taking) {c : Char} (hd : c.isDigit = true)
    (hc : m.digits.length + 1 = Block.width) :
    Tracks (m.press (.digit c)) (l.append c) := by
  have hsound := h.press_digit (h.done_eq_false.2 ht) hd
  have hlen := h.length_concat c
  rw [hc] at hlen
  have hmod : (l.digits ++ [c]).length % Block.width = 0 := by
    rw [hlen]; simp only [Block.width]; omega
  have hstart : (l.digits ++ [c]).length - Block.width = m.blocks.flatten.length := by
    rw [hlen, Pieces.length_flatten h.width]; omega
  have hlast : (l.digits ++ [c]).drop ((l.digits ++ [c]).length - Block.width) = m.digits ++ [c] := by
    rw [hstart, h.typed_eq_concat c, List.drop_left]
  have hroom := h.room (h.done_eq_false.2 ht)
  cases hf : Block.fault? (m.digits ++ [c]) with
  | some f =>
    have hbad : Line.endsBadly (l.digits ++ [c]) = true := by rw [Line.endsBadly, hlast, hf]; rfl
    have hl : l.append c = { l with digits := m.blocks.flatten } := by
      simp only [Line.append, hmod, hbad, and_self, if_true]
      rw [hstart, h.typed_eq_concat c, List.take_left]
    rw [press_digit_rejected hc hf] at hsound ⊢
    rw [hl]
    exact ⟨hsound, by simp, by simp [ht], by simp [ht]⟩
  | none =>
    have hgood : Line.endsBadly (l.digits ++ [c]) = false := by rw [Line.endsBadly, hlast, hf]; rfl
    have hl : l.append c = ⟨l.digits ++ [c],
        if Password.blockCount ≤ m.blocks.length + 1 then .done else .taking⟩ := by
      have hfull : (l.digits ++ [c]).length = Password.blockCount * Block.width ↔
          Password.blockCount ≤ m.blocks.length + 1 := by
        rw [hlen]; simp only [Block.width, Password.blockCount] at hroom ⊢; omega
      simp only [Line.append, hgood, and_false, if_false, hfull, Bool.false_eq_true]
      split
      · rfl
      · rw [ht]
    rw [press_digit_accepted hc hf] at hsound ⊢
    rw [hl]
    refine ⟨hsound, by simpa using h.typed_eq_concat c, ?_, ?_⟩ <;>
      by_cases h8 : Password.blockCount ≤ m.blocks.length + 1 <;> simp [h8]

theorem press_erase (h : Tracks m l) (ht : l.status = .taking) :
    Tracks (m.press .erase) l.erase := by
  have hsound := h.toSound.press_erase (h.done_eq_false.2 ht)
  have hl : l.erase = ⟨(m.blocks.flatten ++ m.digits).dropLast, .taking⟩ := by
    rw [Line.erase, h.typed_eq, ht]
  rw [hl]
  by_cases hd : m.digits = []
  · rcases List.eq_nil_or_concat m.blocks with hb | ⟨bs, b, hb⟩
    · rw [press_erase_nothing hd hb] at hsound ⊢
      rw [hd, hb]
      exact ⟨hsound, rfl, by simp, by simp⟩
    · rw [List.concat_eq_append] at hb
      have hlb : b.length = Block.width := h.width b (by simp [hb])
      have hne : b ≠ [] := List.ne_nil_of_length_pos (by rw [hlb]; decide)
      have htake : b.take (Block.width - 1) = b.dropLast := by rw [List.dropLast_eq_take, hlb]
      rw [press_erase_block hd hb] at hsound ⊢
      rw [hd, hb]
      refine ⟨hsound, ?_, by simp, by simp⟩
      rw [List.flatten_concat, List.append_nil, List.dropLast_append_of_ne_nil hne, htake]
  · rw [press_erase_digit hd] at hsound ⊢
    exact ⟨hsound, List.dropLast_append_of_ne_nil hd, by simp, by simp⟩

theorem press_other (h : Tracks m l) (ht : l.status = .taking) : Tracks (m.press .other) l := by
  have hd := h.done_eq_false.2 ht
  obtain ⟨hv, ha⟩ := done_eq_false_iff.1 (done_press_other hd)
  exact ⟨h.toSound.press_other hd, h.typed_eq, iff_of_false hv (by simp [ht]),
    iff_of_false ha (by simp [ht])⟩

theorem type (h : Tracks m l) (ht : l.status = .taking) (text : List Char) :
    Tracks (m.press (.ofText text)) (l.type text) := by
  rw [Line.type_eq]
  cases hs : Stroke.ofText text with
  | digit c =>
    rcases Nat.lt_or_eq_of_le h.cursor with hc | hc
    · exact h.press_short ht (isDigit_of_ofText hs) hc
    · exact h.press_full ht (isDigit_of_ofText hs) hc
  | erase => exact h.press_erase ht
  | other => exact h.press_other ht

theorem abort (h : Tracks m l) : Tracks m.abort l.abort := by
  have hl : l.abort = ⟨m.blocks.flatten, .aborted⟩ := by
    have hcut : l.digits.length - l.digits.length % Block.width = m.blocks.flatten.length := by
      have hc := h.cursor
      rw [Pieces.length_flatten h.width, h.length_digits]
      simp only [Block.width] at hc ⊢
      omega
    rw [Line.abort, hcut, h.typed_eq, List.take_left]
  rw [hl]
  exact ⟨h.toSound.abort, by simp [Machine.abort], by simp [Machine.abort], by simp [Machine.abort]⟩

theorem perform (h : Tracks m l) (a : Action) :
    Tracks (m.perform a).2 ((l.perform a).getD l) := by
  cases a with
  | abort => exact h.abort
  | feed text =>
    by_cases ht : l.status = .taking
    · rw [perform_feed (h.done_eq_false.2 ht), Line.perform, if_pos ht, Option.getD_some]
      exact h.type ht text
    · have hd : m.done = true := by simpa using mt h.done_eq_false.1 ht
      rw [perform_feed_of_done hd, Line.perform, if_neg ht, Option.getD_none]
      exact h

end Tracks

theorem tracks_after (actions : List Action) : Tracks (after actions) (Line.after actions) := by
  induction actions using List.reverseRecOn with
  | nil => exact tracks_start
  | append_singleton actions a ih =>
    rw [after_concat, Line.after_concat]
    exact ih.perform a

/-- **The machine is a flat line.** After any actions, blocks and digits in progress are the full
groups and the rest of the line's digits, what is shown is the line behind the prompt, and the
machine has ended just as the line has, with the shown line as password if it is done. A stroke is
refused, and changes nothing, just if the line takes none. -/
theorem after_eq_line (prompt : List Char) (actions : List Action) :
    (after actions).blocks = (Line.after actions).blocks ∧
    (after actions).digits = (Line.after actions).rest ∧
    (after actions).line prompt = prompt ++ (Line.after actions).shown ∧
    ((after actions).stage = .allBlocksValid ↔ (Line.after actions).status = .done) ∧
    ((after actions).stage = .aborted ↔ (Line.after actions).status = .aborted) ∧
    ((after actions).password? =
      if (Line.after actions).status = .done then some (Line.after actions).shown else none) ∧
    (∀ text, (after actions).perform (.feed text) =
      if (Line.after actions).status = .taking then
        (.ok (after (actions ++ [.feed text])).stage, after (actions ++ [.feed text]))
      else (.error ⟨(after actions).stage⟩, after actions)) ∧
    (after actions).perform .abort = (.ok .aborted, after (actions ++ [.abort])) := by
  have h := tracks_after actions
  refine ⟨h.blocks_eq, h.digits_eq, h.line_eq prompt, h.done_iff, h.aborted_iff, h.password_eq,
    fun text => ?_, ?_⟩
  · by_cases ht : (Line.after actions).status = .taking
    · have hd := h.done_eq_false.2 ht
      rw [if_pos ht, after_concat, perform_feed hd]
    · have hd : (after actions).done = true := by simpa using mt h.done_eq_false.1 ht
      rw [if_neg ht, perform_feed_of_done hd]
  · rw [after_concat]
    rfl

/-- Both erasers, a hyphen, two digits at once, no text, a digit of another script, a good block, a bad one and
one more digit; after giving up, nothing is taken. -/
theorem after_eq_line_keys :
    let typed := [['1'], ['\x7f'], ['2'], ['\x08'], ['\x08'], ['1'], ['-'], ['3', '5'], [], ['٣'], ['3'],
      ['5'], ['7'], ['9'], ['5'], ['1'], ['2'], ['3'], ['4'], ['5'], ['6'], ['0']]
    let m := after (typed.map Action.feed)
    let ended := after (typed.map Action.feed ++ [.abort])
    m.blocks = ["135795".toList] ∧ m.digits = ['0'] ∧ m.line "> ".toList = "> 135795-0".toList ∧
    m.password? = none ∧ ended.line "> ".toList = "> 135795-".toList ∧
    ended.perform (.feed ['1']) = (.error ⟨.aborted⟩, ended) := by
  intro typed m ended
  obtain ⟨hblocks, hdigits, hline, -, -, hpassword, -, -⟩ :=
    after_eq_line "> ".toList (typed.map Action.feed)
  obtain ⟨-, -, hended, -, haborted, -, hfeed, -⟩ :=
    after_eq_line "> ".toList (typed.map Action.feed ++ [.abort])
  refine ⟨?_, ?_, ?_, ?_, ?_, ?_⟩
  · rw [hblocks]; decide +kernel
  · rw [hdigits]; decide +kernel
  · rw [hline]; decide +kernel
  · rw [hpassword]; decide +kernel
  · rw [hended]; decide +kernel
  · rw [hfeed, if_neg (by decide +kernel), haborted.2 (by decide +kernel)]

end Machine

end KeyRecovery
