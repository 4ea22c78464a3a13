import KeyRecovery.Entry.Terminal
import Mathlib.Data.List.Induction
import Mathlib.Data.List.TakeWhile

/-!
# The attributes of a terminal under its reader

* `Event`, `perform`, `after` : what can happen to a reader on a terminal, and what comes of it;
* `openings`, `reopenings` : how often the reader is opened before it is first closed, and from then on;
* `Unclosed n mode t` : what a reader holds that was opened `n` times and not closed, `unclosed_after`;
* `closed_after` : a closed reader never leaves raw mode again;
* `mode_restored_iff` : so the attributes are restored just if the reader was opened once at most, and not
  after it was closed;
* `raw_opened_twice` : opening twice is enough to lose them.
-/

namespace KeyRecovery.Terminal

variable {α : Type} [Attributes α]

/-- What can happen to a reader. Entering it as a context opens it, and leaving that closes it. Meanwhile
there is typing at the other end, of which the terminal makes what it will. -/
inductive Event
  | opened
  | entered
  | read
  | closed
  | left
  | typed (edit : Typeahead → Typeahead)

/-- Whether the reader is opened. -/
def Event.opens : Event → Bool
  | .opened | .entered => true
  | .read | .closed | .left | .typed _ => false

/-- Whether the reader is closed. -/
def Event.closes : Event → Bool
  | .closed | .left => true
  | .opened | .entered | .read | .typed _ => false

def perform (t : Terminal α) : Event → Terminal α
  | .opened | .entered => t.opened
  | .read => t.read.2
  | .closed | .left => t.close.2
  | .typed edit => { t with device.waiting := edit t.device.waiting }

def after (t : Terminal α) (events : List Event) : Terminal α := events.foldl perform t

theorem after_append (t : Terminal α) (events more : List Event) :
    t.after (events ++ more) = (t.after events).after more := List.foldl_append

def openings (events : List Event) : Nat := (events.takeWhile (!·.closes)).countP (·.opens)

/-- How often a reader is opened after it was first closed. -/
def reopenings (events : List Event) : Nat := (events.dropWhile (!·.closes)).countP (·.opens)

/-! ## One event -/

section Step

variable {t : Terminal α} {e : Event}

/-- Opening saves the attributes there are, which may be raw already. -/
theorem perform_of_opens (ht : t.device.isTerminal) (he : e.opens) :
    t.perform e = { t with saved := some t.device.mode, device := t.device.toRaw } := by
  have hopen : t.opened = { t with saved := some t.device.mode, device := t.device.toRaw } := by
    simp only [opened, openWith, if_pos ht]
  cases e with
  | opened | entered => exact hopen
  | read | closed | left | typed => cases he

theorem perform_of_closes (he : e.closes) : t.perform e = t.close.2 := by
  cases e with
  | closed | left => rfl
  | opened | entered | read | typed => cases he

/-- Reading and typing change no more than the input that waits. -/
theorem perform_of_neither (ho : e.opens = false) (hc : e.closes = false) :
    (t.perform e).closed = t.closed ∧ (t.perform e).saved = t.saved ∧
      (t.perform e).device.isTerminal = t.device.isTerminal ∧
      (t.perform e).device.mode = t.device.mode := by
  cases e with
  | opened | entered => cases ho
  | closed | left => cases hc
  | typed edit => exact ⟨rfl, rfl, rfl, rfl⟩
  | read =>
    simp only [perform, read]
    split
    · exact ⟨rfl, rfl, rfl, rfl⟩
    · split
      · exact ⟨rfl, rfl, rfl, rfl⟩
      · split <;> exact ⟨rfl, rfl, rfl, rfl⟩

end Step

/-! ## Before it is closed -/

/-- A reader that was opened `n` times and not closed, on a terminal that had the attributes `mode`. -/
structure Unclosed (n : Nat) (mode : α) (t : Terminal α) : Prop where
  terminal : t.device.isTerminal
  unclosed : t.closed = false
  saved : t.saved = match n with
    | 0 => none
    | 1 => some mode
    | _ + 2 => some (Attributes.raw mode)
  mode : t.device.mode = if n = 0 then mode else Attributes.raw mode

theorem unclosed_after {d : Device α} (hd : d.isTerminal) {events : List Event}
    (h : ∀ e ∈ events, e.closes = false) :
    Unclosed (events.countP (·.opens)) d.mode ((on d).after events) := by
  induction events using List.reverseRecOn with
  | nil => exact ⟨hd, rfl, rfl, rfl⟩
  | append_singleton events e ih =>
    have ht := ih fun u hu => h u (List.mem_append_left _ hu)
    have hc : e.closes = false := h e (by simp)
    rw [after_append, List.countP_append, List.countP_singleton]
    generalize events.countP (·.opens) = n at ht
    generalize (on d).after events = t at ht
    change Unclosed _ _ (t.perform e)
    cases ho : e.opens with
    | true =>
      rw [perform_of_opens ht.terminal ho]
      cases n with
      | zero => exact ⟨ht.terminal, ht.unclosed, congrArg some ht.mode, congrArg Attributes.raw ht.mode⟩
      | succ n =>
        exact ⟨ht.terminal, ht.unclosed, congrArg some ht.mode,
          (congrArg Attributes.raw ht.mode).trans (Attributes.raw_raw d.mode)⟩
    | false =>
      obtain ⟨hclosed, hsaved, hterminal, hmode⟩ := perform_of_neither (t := t) ho hc
      exact ⟨hterminal.trans ht.terminal, hclosed.trans ht.unclosed, hsaved.trans ht.saved,
        hmode.trans ht.mode⟩

/-! ## Once it is closed -/

/-- Closing brings the saved attributes back: the first ones if the reader was opened once, raw ones if it
was opened again. -/
theorem Unclosed.close {n : Nat} {mode : α} {t : Terminal α} (h : Unclosed n mode t) :
    t.close.2.closed = true ∧ t.close.2.device.isTerminal ∧
      t.close.2.device.mode = if n ≤ 1 then mode else Attributes.raw mode := by
  have hnone (hs : t.saved = none) : t.close.2 = { t with closed := true } := by
    simp only [Terminal.close, h.unclosed, hs]
    rfl
  have hsome {old : α} (hs : t.saved = some old) :
      t.close.2 = ⟨{ t.device with mode := old }, none, true⟩ := by
    simp only [Terminal.close, h.unclosed, h.terminal, hs]
    rfl
  rcases n with _ | _ | n
  · rw [hnone h.saved]
    exact ⟨rfl, h.terminal, h.mode⟩
  · rw [hsome h.saved]
    exact ⟨rfl, h.terminal, rfl⟩
  · rw [hsome h.saved]
    exact ⟨rfl, h.terminal, rfl⟩

theorem closed_after {t : Terminal α} (hclosed : t.closed = true) (ht : t.device.isTerminal)
    (events : List Event) :
    (t.after events).device.mode =
      if events.countP (·.opens) = 0 then t.device.mode else Attributes.raw t.device.mode := by
  induction events generalizing t with
  | nil => rfl
  | cons e events ih =>
    change ((t.perform e).after events).device.mode = _
    cases ho : e.opens with
    | true =>
      have he := perform_of_opens ht ho
      have hrest := ih (t := t.perform e) (by rwa [he]) (by rw [he]; exact ht)
      rw [hrest, he, List.countP_cons_of_pos ho, if_neg (Nat.succ_ne_zero _)]
      simp only [Device.toRaw, Attributes.raw_raw, ite_self]
    | false =>
      rw [List.countP_cons_of_neg (by simp [ho])]
      cases hc : e.closes with
      | true =>
        have hclose : t.close.2 = t := by
          unfold Terminal.close
          rw [if_pos hclosed]
        rw [perform_of_closes hc, hclose, ih hclosed ht]
      | false =>
        obtain ⟨hclosed', -, hterminal, hmode⟩ := perform_of_neither (t := t) ho hc
        rw [ih (hclosed'.trans hclosed) (hterminal.trans ht), hmode]

/-! ## All events -/

theorem opens_of_closes {e : Event} (h : e.closes) : e.opens = false := by
  cases e with
  | closed | left => rfl
  | opened | entered | read | typed => cases h

/-- The first closing, with what comes before and behind. -/
theorem exists_first_closing {events : List Event} (h : ∃ e ∈ events, e.closes) :
    ∃ before e rest, events = before ++ e :: rest ∧ (∀ u ∈ before, u.closes = false) ∧ e.closes ∧
      openings events = before.countP (·.opens) ∧ reopenings events = rest.countP (·.opens) := by
  have hall := List.all_eq_true.1 (List.all_takeWhile (p := fun e : Event => !e.closes) (l := events))
  have hhead := List.head?_dropWhile_not (fun e : Event => !e.closes) events
  cases hrest : events.dropWhile (!·.closes) with
  | nil =>
    obtain ⟨e, he, hc⟩ := h
    have := List.dropWhile_eq_nil_iff.1 hrest e he
    rw [hc] at this
    cases this
  | cons e rest =>
    rw [hrest] at hhead
    have hc : e.closes = true := by simpa using hhead
    refine ⟨events.takeWhile (!·.closes), e, rest, ?_, fun u hu => by simpa using hall u hu, hc, rfl, ?_⟩
    · rw [← hrest, List.takeWhile_append_dropWhile]
    · rw [reopenings, hrest, List.countP_cons_of_neg (by simp [opens_of_closes hc])]

theorem mode_after {d : Device α} (hd : d.isTerminal) {events : List Event}
    (hclosed : ∃ e ∈ events, e.closes) : ((on d).after events).device.mode =
      if openings events ≤ 1 ∧ reopenings events = 0 then d.mode else Attributes.raw d.mode := by
  obtain ⟨before, e, rest, rfl, hbefore, he, ho, hr⟩ := exists_first_closing hclosed
  rw [ho, hr]
  obtain ⟨hclosed, ht, hmode⟩ := (unclosed_after hd hbefore).close
  have hafter : (on d).after (before ++ e :: rest) = (((on d).after before).close.2).after rest := by
    rw [after_append, ← perform_of_closes he]
    rfl
  rw [hafter, closed_after hclosed ht, hmode]
  by_cases h1 : before.countP (·.opens) ≤ 1 <;> by_cases h0 : rest.countP (·.opens) = 0 <;>
    simp [h1, h0, Attributes.raw_raw]

/-- **When the attributes are restored.** Let a reader on a terminal be opened, entered, read, closed and left
in any order and any number of times, whatever is typed meanwhile, and let the system grant every change of
mode. From the first time it is closed on, the terminal has the attributes it had before all this just if these
were raw ones, or the reader was opened once at most before it was closed, and never again behind. -/
theorem mode_restored_iff {d : Device α} (hd : d.isTerminal) {events : List Event}
    (hclosed : ∃ e ∈ events, e.closes) :
    ((on d).after events).device.mode = d.mode ↔
      Attributes.raw d.mode = d.mode ∨ openings events ≤ 1 ∧ reopenings events = 0 := by
  rw [mode_after hd hclosed]
  split
  · next h => exact iff_of_true rfl (.inr h)
  · next h => exact ⟨.inl, fun h' => h'.resolve_right h⟩

/-- A reader that is entered, read, left and closed once more. -/
theorem mode_restored_iff_context :
    let d := Device.idle .terminal Mode.cooked
    let events : List Event := [.entered, .typed (·.add [0x31]), .read, .left, .read, .closed]
    d.isTerminal ∧ (∃ e ∈ events, e.closes) ∧ ((on d).after events).device.mode = .cooked := by
  intro d events
  have hclosed : ∃ e ∈ events, e.closes := ⟨.left, by simp [events], rfl⟩
  exact ⟨rfl, hclosed, (mode_restored_iff rfl hclosed).2 (.inr ⟨Nat.le_refl 1, rfl⟩)⟩

/-- A reader that is opened and then entered, and one that is opened again when it was closed, leave the
terminal raw however often they are closed. -/
theorem raw_opened_twice :
    let d := Device.idle .terminal Mode.cooked
    d.mode ≠ Attributes.raw d.mode ∧
      ((on d).after [.opened, .entered, .left]).device.mode = Attributes.raw d.mode ∧
      ((on d).after [.opened, .closed, .opened, .closed]).device.mode = Attributes.raw d.mode := by
  decide

end KeyRecovery.Terminal
