import KeyRecovery.Entry.Line

/-!
# Steps and runs of the entry machine

What one stroke does, case by case, so that no later proof opens `Machine.press`:

* `press_digit_short`, `press_digit_rejected`, `press_digit_accepted` : a digit that leaves the block
  open, that completes a bad one, and that completes a good one;
* `press_erase_digit`, `press_erase_block`, `press_erase_nothing` : a digit taken back from the digits
  in progress, from the last block, and from an empty entry;
* `perform_feed`, `perform_feed_of_done`, `feed_eq_ok_iff` : a piece of input is a stroke, or refused;
* `done_press_other` : a stroke that means nothing does not end an entry;
* `Machine.after`, `Line.after` : machine and line after a list of actions, from the start.
-/

namespace KeyRecovery

namespace Machine

/-! ## Digits -/

theorem press_digit_short {m : Machine} (c : Char) (h : m.digits.length + 1 < Block.width) :
    m.press (.digit c) =
      { m with digits := m.digits ++ [c], stage := .awaitingDigit, lastError := none } := by
  have h' : ¬ Block.width ≤ (m.digits ++ [c]).length := by
    rw [List.length_append, List.length_singleton]; omega
  simp only [press, if_neg h']

theorem press_digit_full {m : Machine} (c : Char) (h : m.digits.length + 1 = Block.width) :
    m.press (.digit c) =
      { m with digits := m.digits ++ [c], stage := .awaitingDigit, lastError := none }.closeBlock := by
  have h' : Block.width ≤ (m.digits ++ [c]).length := by
    rw [List.length_append, List.length_singleton]; omega
  simp only [press, if_pos h']

theorem press_digit_rejected {m : Machine} {c : Char} {f : BlockFault}
    (h : m.digits.length + 1 = Block.width) (hf : Block.fault? (m.digits ++ [c]) = some f) :
    m.press (.digit c) =
      ⟨m.blocks, [], .awaitingDigit, some ⟨f, m.place, m.digits ++ [c]⟩⟩ := by
  rw [press_digit_full c h]
  simp only [closeBlock, Block.shortValue, hf]
  rfl

theorem press_digit_accepted {m : Machine} {c : Char} (h : m.digits.length + 1 = Block.width)
    (hf : Block.fault? (m.digits ++ [c]) = none) :
    m.press (.digit c) = ⟨m.blocks ++ [m.digits ++ [c]], [],
      if Password.blockCount ≤ m.blocks.length + 1 then .allBlocksValid else .blockComplete, none⟩ := by
  rw [press_digit_full c h]
  simp only [closeBlock, Block.shortValue, hf, List.length_append, List.length_singleton]

/-! ## Erasing -/

theorem press_erase_digit {m : Machine} (h : m.digits ≠ []) :
    m.press .erase =
      { m with digits := m.digits.dropLast, stage := .awaitingDigit, lastError := none } := by
  have h' : m.digits.isEmpty = false := by simpa using h
  simp [press, eraseDigit, h']

theorem press_erase_block {m : Machine} {bs : List (List Char)} {b : List Char}
    (hd : m.digits = []) (hb : m.blocks = bs ++ [b]) :
    m.press .erase = ⟨bs, b.take (Block.width - 1), .awaitingDigit, none⟩ := by
  simp [press, eraseDigit, hd, hb]

theorem press_erase_nothing {m : Machine} (hd : m.digits = []) (hb : m.blocks = []) :
    m.press .erase = ⟨[], [], .awaitingDigit, none⟩ := by
  simp [press, eraseDigit, hd, hb]

/-! ## Actions -/

theorem perform_feed {m : Machine} (h : m.done = false) (text : List Char) :
    m.perform (.feed text) = (.ok (m.press (.ofText text)).stage, m.press (.ofText text)) := by
  simp [perform, feed, h]

theorem perform_feed_of_done {m : Machine} (h : m.done = true) (text : List Char) :
    m.perform (.feed text) = (.error ⟨m.stage⟩, m) := by
  simp [perform, feed, h]

theorem done_eq_false_iff {m : Machine} :
    m.done = false ↔ m.stage ≠ .allBlocksValid ∧ m.stage ≠ .aborted := by
  unfold done
  cases m.stage <;> simp [Stage.isFinal]

theorem done_eq_true_iff {m : Machine} :
    m.done = true ↔ m.stage = .allBlocksValid ∨ m.stage = .aborted := by
  unfold done
  cases m.stage <;> simp [Stage.isFinal]

theorem feed_eq_ok_iff {m m' : Machine} {text : List Char} :
    m.feed text = .ok m' ↔ m.done = false ∧ m.press (.ofText text) = m' := by
  unfold feed
  cases m.done <;> simp

theorem done_press_other {m : Machine} (hd : m.done = false) : (m.press .other).done = false := by
  obtain ⟨hv, ha⟩ := done_eq_false_iff.1 hd
  refine done_eq_false_iff.2 ?_
  by_cases hb : m.stage = .blockComplete <;> simp [press, hb, hv, ha]

def after (actions : List Action) : Machine := actions.foldl (fun m a => (m.perform a).2) start

@[simp] theorem after_concat (actions : List Action) (a : Action) :
    after (actions ++ [a]) = ((after actions).perform a).2 := by
  simp [after]

/-- What the start has and every action keeps holds after every list of actions. -/
theorem after_induction {P : Machine → Prop} (h₀ : P start)
    (h : ∀ m a, P m → P (m.perform a).2) (actions : List Action) : P (after actions) := by
  unfold after
  generalize start = m at h₀ ⊢
  induction actions generalizing m with
  | nil => exact h₀
  | cons a actions ih => exact ih _ (h m a h₀)

end Machine

namespace Line

def after (actions : List Machine.Action) : Line :=
  actions.foldl (fun l a => (l.perform a).getD l) start

@[simp] theorem after_concat (actions : List Machine.Action) (a : Machine.Action) :
    after (actions ++ [a]) = ((after actions).perform a).getD (after actions) := by
  simp [after]

end Line

end KeyRecovery
