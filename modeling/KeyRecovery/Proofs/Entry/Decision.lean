import KeyRecovery.Entry.Dialogue
import KeyRecovery.Proofs.Entry.Invariant
import KeyRecovery.Proofs.Entry.Stream

/-!
# What decides a dialogue

A dialogue on the characters `cs`, behind which a source ends or fails:

* `Machine.typed m cs` : machine `m` after the characters `cs` were typed;
* `Machine.rejections m cs` : the blocks that are rejected meanwhile;
* `Decides m cs d` : character `d`, or the end behind the last one, is the first that ends the dialogue;
* `Ending m cs fault d` : how the dialogue then ends;
* `drawn prompt m cs` : the events of typed characters;
* `talk_law` : the loop stops at what decides, having drawn what was typed.
-/

namespace KeyRecovery

open Source (Delivers afterReads)

namespace Machine

/-! ## Typed characters -/

/-- The machine after one character; a machine that has ended stays as it is. -/
def stroke (m : Machine) (c : Char) : Machine := (m.perform (.feed [c])).2

def typed (m : Machine) (cs : List Char) : Machine := cs.foldl stroke m

def rejections (m : Machine) : List Char → List BlockError
  | [] => []
  | c :: cs => (m.stroke c).lastError.toList ++ rejections (m.stroke c) cs

@[simp] theorem typed_nil (m : Machine) : m.typed [] = m := rfl

@[simp] theorem typed_cons (m : Machine) (c : Char) (cs : List Char) :
    m.typed (c :: cs) = (m.stroke c).typed cs := rfl

theorem typed_append (m : Machine) (cs ds : List Char) : m.typed (cs ++ ds) = (m.typed cs).typed ds :=
  List.foldl_append

theorem typed_take_succ (m : Machine) {cs : List Char} {d : Nat} {c : Char} (h : cs[d]? = some c) :
    m.typed (cs.take (d + 1)) = (m.typed (cs.take d)).stroke c := by
  obtain ⟨hd, rfl⟩ := List.getElem?_eq_some_iff.1 h
  rw [List.take_succ_eq_append_getElem hd, typed_append]
  rfl

theorem stroke_eq {m : Machine} (hd : m.done = false) (c : Char) :
    m.stroke c = m.press (.ofChar c) := by
  rw [stroke, perform_feed hd]
  rfl

theorem stroke_of_done {m : Machine} (hd : m.done = true) (c : Char) : m.stroke c = m := by
  rw [stroke, perform_feed_of_done hd]

theorem typed_of_done {m : Machine} (hd : m.done = true) (cs : List Char) : m.typed cs = m := by
  induction cs with
  | nil => rfl
  | cons c cs ih => rw [typed_cons, stroke_of_done hd, ih]

namespace Sound

variable {m : Machine}

theorem stroke (h : Sound m) (c : Char) : Sound (m.stroke c) := h.perform (.feed [c])

theorem afterTyping (h : Sound m) (cs : List Char) : Sound (m.typed cs) := by
  induction cs generalizing m with
  | nil => exact h
  | cons c cs ih => exact ih (h.stroke c)

end Sound

theorem press_stage_ne_aborted (m : Machine) (s : Stroke) (hd : m.done = false) :
    (m.press s).stage ≠ .aborted := by
  cases s with
  | erase => simp [press]
  | other => exact (done_eq_false_iff.1 (done_press_other hd)).2
  | digit c =>
    simp only [press]
    split
    · unfold closeBlock
      split
      · simp
      · dsimp only
        split <;> simp
    · simp

/-- Typing never aborts: a machine that was taking strokes ends with a password or not at all. -/
theorem done_stroke {m : Machine} (hd : m.done = false) (c : Char) :
    (m.stroke c).done = false ↔ (m.stroke c).stage ≠ .allBlocksValid := by
  have ha : (m.stroke c).stage ≠ .aborted := by
    rw [stroke_eq hd]
    exact press_stage_ne_aborted m _ hd
  rw [done_eq_false_iff]
  exact and_iff_left ha

/-- A character that aborts means nothing as a stroke. -/
theorem stroke_aborter {m : Machine} (hd : m.done = false) {c : Char} (hc : c ∈ Stroke.aborters) :
    m.stroke c = m.press .other := by
  rw [stroke_eq hd]
  congr
  rcases List.mem_cons.1 hc with rfl | hc
  · rfl
  · rw [List.mem_singleton.1 hc]
    rfl

theorem stage_stroke_aborter {m : Machine} (hd : m.done = false) {c : Char}
    (hc : c ∈ Stroke.aborters) : (m.stroke c).stage ≠ .allBlocksValid := by
  rw [stroke_aborter hd hc]
  exact (done_eq_false_iff.1 (done_press_other hd)).1

theorem password?_eq_none_iff {m : Machine} : m.password? = none ↔ m.stage ≠ .allBlocksValid := by
  simp [password?]

theorem feed_eq {m : Machine} (hd : m.done = false) (c : Char) : m.feed [c] = .ok (m.stroke c) := by
  rw [stroke_eq hd, feed, hd]
  rfl

end Machine

namespace Dialogue

open Machine (start)

/-! ## What decides -/

/-- Reading number `d` is the first that ends a dialogue: it gives a character that aborts, one that
completes the password, or no character. -/
structure Decides (m : Machine) (cs : List Char) (d : Nat) : Prop where
  le : d ≤ cs.length
  before : ∀ j < d, ∀ c, cs[j]? = some c →
    c ∉ Stroke.aborters ∧ (m.typed (cs.take (j + 1))).stage ≠ .allBlocksValid
  here : ∀ c, cs[d]? = some c →
    c ∈ Stroke.aborters ∨ (m.typed (cs.take (d + 1))).stage = .allBlocksValid

theorem decides_iff {m : Machine} {cs : List Char} {d : Nat} : Decides m cs d ↔ d ≤ cs.length ∧
    (∀ j < d, (cs[j]?.all fun c => c ∉ Stroke.aborters ∧
      (m.typed (cs.take (j + 1))).stage ≠ .allBlocksValid) = true) ∧
    (cs[d]?.all fun c => c ∈ Stroke.aborters ∨
      (m.typed (cs.take (d + 1))).stage = .allBlocksValid) = true := by
  simp only [Option.all_eq_true, decide_eq_true_eq]
  exact ⟨fun h => ⟨h.le, h.before, h.here⟩, fun h => ⟨h.1, h.2.1, h.2.2⟩⟩

instance (m : Machine) (cs : List Char) (d : Nat) : Decidable (Decides m cs d) :=
  decidable_of_iff _ decides_iff.symm

inductive Ending (m : Machine) (cs : List Char) (fault : Option ReadError) (d : Nat) :
    Except Failed (List Char) → Prop
  /-- The character completes the password. -/
  | complete (c : Char) (p : List Char) (hc : cs[d]? = some c) (ha : c ∉ Stroke.aborters)
      (hp : (m.typed (cs.take (d + 1))).password? = some p) : Ending m cs fault d (.ok p)
  /-- The character aborts. -/
  | abort (c : Char) (hc : cs[d]? = some c) (ha : c ∈ Stroke.aborters) :
      Ending m cs fault d (.error (.ended ((m.typed (cs.take d)).blocks.length + 1)))
  /-- There is no character. -/
  | ended (hd : d = cs.length) (hf : fault = none) :
      Ending m cs fault d (.error (.ended ((m.typed (cs.take d)).blocks.length + 1)))
  /-- The read fails. -/
  | failed (e : ReadError) (hd : d = cs.length) (hf : fault = some e) :
      Ending m cs fault d (.error (.read e))

section Decides

variable {m : Machine} {c : Char} {cs : List Char} {d : Nat}

theorem decides_nil : Decides m [] 0 := ⟨Nat.le_refl 0, nofun, nofun⟩

theorem decides_zero (h : c ∈ Stroke.aborters ∨ (m.stroke c).stage = .allBlocksValid) :
    Decides m (c :: cs) 0 := by
  refine ⟨Nat.zero_le _, nofun, fun a ha => ?_⟩
  obtain rfl : c = a := Option.some.inj ha
  exact h

/-- A character that decides nothing only shifts what does. -/
theorem Decides.cons (hc : c ∉ Stroke.aborters) (hv : (m.stroke c).stage ≠ .allBlocksValid)
    (h : Decides (m.stroke c) cs d) : Decides m (c :: cs) (d + 1) := by
  refine ⟨Nat.succ_le_succ h.le, fun j hj a ha => ?_, h.here⟩
  cases j with
  | zero =>
    obtain rfl : c = a := Option.some.inj ha
    exact ⟨hc, hv⟩
  | succ j => exact h.before j (Nat.lt_of_succ_lt_succ hj) a ha

theorem Ending.cons {fault : Option ReadError} {result : Except Failed (List Char)}
    (h : Ending (m.stroke c) cs fault d result) : Ending m (c :: cs) fault (d + 1) result := by
  cases h with
  | complete a p ha hn hp => exact .complete a p ha hn hp
  | abort a ha hm => exact .abort a ha hm
  | ended hd hf => exact .ended (congrArg (· + 1) hd) hf
  | failed e hd hf => exact .failed e (congrArg (· + 1) hd) hf

theorem Decides.not_lt {e : Nat} (h : Decides m cs d) (h' : Decides m cs e) : ¬ d < e := by
  intro hlt
  obtain ⟨a, ha⟩ : ∃ a, cs[d]? = some a :=
    ⟨_, List.getElem?_eq_getElem (Nat.lt_of_lt_of_le hlt h'.le)⟩
  obtain ⟨hn, hv⟩ := h'.before d hlt a ha
  exact (h.here a ha).elim hn hv

theorem Decides.unique {e : Nat} (h : Decides m cs d) (h' : Decides m cs e) : d = e :=
  Nat.le_antisymm (Nat.not_lt.1 (h'.not_lt h)) (Nat.not_lt.1 (h.not_lt h'))

/-- Where the characters end earlier, their end decides. -/
theorem Decides.cut {k : Nat} (h : Decides m cs d) (hk : k ≤ d) : Decides m (cs.take k) k := by
  have hlen : (cs.take k).length = k := List.length_take_of_le (Nat.le_trans hk h.le)
  refine ⟨Nat.le_of_eq hlen.symm, fun j hj c hc => ?_, fun c hc => ?_⟩
  · rw [List.getElem?_take_of_lt hj] at hc
    rw [List.take_take, Nat.min_eq_left hj]
    exact h.before j (Nat.lt_of_lt_of_le hj hk) c hc
  · rw [List.getElem?_eq_none (Nat.le_of_eq hlen)] at hc
    cases hc

/-- Up to what decides, a machine takes strokes. -/
theorem Decides.taking (hd : m.done = false) (h : Decides m cs d) :
    ∀ j ≤ d, (m.typed (cs.take j)).done = false := by
  intro j hj
  induction j with
  | zero => exact hd
  | succ j ih =>
    have hc := List.getElem?_eq_getElem (Nat.lt_of_lt_of_le hj h.le)
    have hv := (h.before j hj _ hc).2
    rw [Machine.typed_take_succ m hc] at hv ⊢
    exact (Machine.done_stroke (ih (Nat.le_of_succ_le hj)) _).2 hv

end Decides

/-! ## The loop -/

def drawn (prompt : List Char) (m : Machine) : List Char → List Event
  | [] => []
  | c :: cs => redraw prompt c m (m.stroke c) ++ drawn prompt (m.stroke c) cs

/-- A stroke that means nothing leaves nothing to draw. -/
theorem redraw_other (prompt : List Char) (c : Char) (m : Machine) :
    redraw prompt c m (m.press .other) = [] := by
  rw [redraw, if_pos (by simp [unchanged, Machine.press, Machine.cursor])]

theorem redraw_aborter {prompt : List Char} {m : Machine} {c : Char} (hd : m.done = false)
    (hc : c ∈ Stroke.aborters) : redraw prompt c m (m.stroke c) = [] := by
  rw [Machine.stroke_aborter hd hc, redraw_other]

section Talk

variable {σ : Type} [Source σ] (prompt : List Char) (m : Machine) (s : σ)

theorem talk_of_stop {n : Turn} {result : Except Failed (List Char)}
    (hn : turn prompt m (Source.read s).1 = n) (h : n.result = some result) :
    talk prompt m s = ⟨result, n.events, n.machine, (Source.read s).2⟩ := by
  subst hn
  rw [talk]
  split <;> simp_all

theorem talk_of_more {n : Turn} (hn : turn prompt m (Source.read s).1 = n) (h : n.result = none) :
    talk prompt m s = { talk prompt n.machine (Source.read s).2 with
      events := n.events ++ (talk prompt n.machine (Source.read s).2).events } := by
  subst hn
  rw [talk]
  split <;> simp_all

theorem talk_failed {e : ReadError} (h : (Source.read s).1 = .error e) :
    talk prompt m s = ⟨.error (.read e), [], m, (Source.read s).2⟩ :=
  talk_of_stop prompt m s (congrArg (turn prompt m) h) rfl

theorem talk_ended (h : (Source.read s).1 = .ok none) :
    talk prompt m s = ⟨.error (.ended m.place), [], m.abort, (Source.read s).2⟩ :=
  talk_of_stop prompt m s (congrArg (turn prompt m) h) rfl

theorem talk_abort {c : Char} (h : (Source.read s).1 = .ok (some c)) (hc : c ∈ Stroke.aborters) :
    talk prompt m s = ⟨.error (.ended m.place), [], m.abort, (Source.read s).2⟩ := by
  have hn : turn prompt m (Source.read s).1 = giveUp m := by
    rw [h, turn, if_pos (List.contains_iff_mem.2 hc)]
  exact talk_of_stop prompt m s hn rfl

theorem turn_character {c : Char} (hc : c ∉ Stroke.aborters) (hd : m.done = false) :
    turn prompt m (.ok (some c)) =
      ⟨(m.stroke c).password?.map .ok, redraw prompt c m (m.stroke c), m.stroke c⟩ := by
  rw [turn, if_neg (mt List.contains_iff_mem.1 hc), Machine.feed_eq hd c]

theorem talk_complete {c : Char} (h : (Source.read s).1 = .ok (some c)) (hc : c ∉ Stroke.aborters)
    (hd : m.done = false) {p : List Char} (hp : (m.stroke c).password? = some p) :
    talk prompt m s = ⟨.ok p, redraw prompt c m (m.stroke c), m.stroke c, (Source.read s).2⟩ :=
  talk_of_stop prompt m s (h ▸ turn_character prompt m hc hd) (by rw [hp]; rfl)

theorem talk_continue {c : Char} (h : (Source.read s).1 = .ok (some c)) (hc : c ∉ Stroke.aborters)
    (hd : m.done = false) (hp : (m.stroke c).password? = none) :
    talk prompt m s = { talk prompt (m.stroke c) (Source.read s).2 with
      events := redraw prompt c m (m.stroke c) ++
        (talk prompt (m.stroke c) (Source.read s).2).events } :=
  talk_of_more prompt m s (h ▸ turn_character prompt m hc hd) (by rw [hp]; rfl)

theorem talk_law {cs : List Char} {fault : Option ReadError} {m : Machine} {s : σ}
    (hd : m.done = false) (h : Delivers s cs fault) :
    ∃ d, Decides m cs d ∧ Ending m cs fault d (talk prompt m s).result ∧
      (∀ e, (talk prompt m s).result = .error (.read e) →
        (talk prompt m s).machine = m.typed (cs.take d)) ∧
      (talk prompt m s).source = afterReads s (d + 1) ∧
      (talk prompt m s).events = drawn prompt m (cs.take (d + 1)) := by
  -- on the characters to come, as what decides nothing leaves the rest to the machine after it
  induction cs generalizing m s with
  | nil =>
    refine ⟨0, decides_nil, ?_⟩
    cases fault with
    | none =>
      rw [talk_ended prompt m s h.last]
      exact ⟨.ended rfl rfl, nofun, rfl, rfl⟩
    | some e =>
      rw [talk_failed prompt m s h.last]
      exact ⟨.failed e rfl rfl, fun _ _ => rfl, rfl, rfl⟩
  | cons c cs ih =>
    have hr := h.chars 0 c rfl
    by_cases hc : c ∈ Stroke.aborters
    · rw [talk_abort prompt m s hr hc]
      refine ⟨0, decides_zero (.inl hc), .abort c rfl hc, nofun, rfl, ?_⟩
      simp only [List.take_succ_cons, List.take_zero, drawn, redraw_aborter hd hc, List.append_nil]
    · cases hp : (m.stroke c).password? with
      | some p =>
        rw [talk_complete prompt m s hr hc hd hp]
        refine ⟨0, decides_zero (.inr (Machine.password?_eq_some_iff.1 hp).1),
          .complete c p rfl hc hp, nofun, rfl, ?_⟩
        simp only [List.take_succ_cons, List.take_zero, drawn, List.append_nil]
      | none =>
        have hv : (m.stroke c).stage ≠ .allBlocksValid := Machine.password?_eq_none_iff.1 hp
        obtain ⟨d, hdec, hend, hmach, hsrc, hev⟩ := ih ((Machine.done_stroke hd c).2 hv) h.tail
        rw [talk_continue prompt m s hr hc hd hp]
        refine ⟨d + 1, hdec.cons hc hv, hend.cons, hmach, hsrc, ?_⟩
        rw [List.take_succ_cons, drawn, ← hev]

end Talk

end Dialogue

end KeyRecovery
