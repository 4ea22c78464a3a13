import KeyRecovery.Proofs.Form.Steps

/-!
# Where derived keys are

A form together with the workers that derive its keys, whatever happens to it in whatever order:

* `Form.Event`, `Form.Event.leaves` : what can happen, and whether it leaves the form;
* `Custody`, `Custody.step`, `Custody.run` : the form, the keys that lie with workers, and all keys derived;
* `Moves c leaving c'` : what an event comes to for the keys; `moves_step` : each event is such a move;
* `Sound c` : each derived key lies with a worker, is pending, is held, or is zero; `Sound.moves` : moves keep
  this;
* `quitting_run` : a form that was left stays left;
* `custody_run` : so it is after any events.
-/

namespace KeyRecovery

open Form (Typed Keeps Left)
open Memory (Wipes)

inductive Form.Event
  | mount
  | press (e : KeyEvent)
  /-- The worker of the `i`-th job that was asked for derives its key. -/
  | derive (i : Nat)
  /-- The worker of the `i`-th key that lies with workers hands it over, and ends. -/
  | deliver (i : Nat)
  | notice (finished : Bool) (name : String) (report : Datum)
  | copy
  | quit
  | unmount
  | setClock (now : Float)

def Form.Event.leaves : Form.Event → Bool
  | .quit | .unmount => true
  | .press e => e.name = "escape".toList
  | .mount | .derive _ | .deliver _ | .notice .. | .copy | .setClock _ => false

structure Custody where
  form : Form
  working : List BufferId
  derived : List BufferId

namespace Custody

/-- What an event does. Mounting and key strokes never fail (`Form.mount_typed`, `Form.press_cases`), and a
job that runs is no longer asked for, so it runs once. -/
def step (c : Custody) : Form.Event → Custody
  | .mount =>
    match c.form.mount with
    | .ok f => { c with form := f }
    | .error _ => c
  | .press e =>
    match c.form.press e with
    | .ok (_, f) => { c with form := f }
    | .error _ => c
  | .derive i =>
    match c.form.jobs[i]? with
    | none => c
    | some job =>
      match { c.form with jobs := c.form.jobs.eraseIdx i }.compute job with
      | (.ok key, f) => ⟨f, c.working ++ [key], c.derived ++ [key]⟩
      | (.error _, f) => { c with form := f }
  | .deliver i =>
    match c.working[i]? with
    | none => c
    | some key => { c with form := (c.form.deliver key).2, working := c.working.eraseIdx i }
  | .notice finished name report => { c with form := (c.form.workerChanged finished name report).2 }
  | .copy => { c with form := c.form.copyKey }
  | .quit => { c with form := c.form.quit }
  | .unmount => { c with form := c.form.unmount }
  | .setClock now => { c with form := { c.form with clock := now } }

def run (c : Custody) (events : List Form.Event) : Custody := events.foldl step c

/-! ## Where keys are -/

/-- Each derived key lies with a worker, is pending, is held by the session, or is zero; and there is at
most one. -/
structure Sound (c : Custody) : Prop where
  session : Session.Sound c.form.memory c.form.session
  once : c.form.jobs.length + c.derived.length ≤ 1
  typing : c.form.machine.done = false → c.form.jobs = [] ∧ c.derived = []
  working : ∀ key ∈ c.working, key ∈ c.derived
  pending : ∀ key, c.form.pending = some key → key ∈ c.derived
  buffers : ∀ key ∈ c.derived, c.form.memory.Holds key ∧ c.form.memory.isFrozen key = false ∧
    (c.form.memory.bytes key).length = Chain.digestLength
  placed : ∀ key ∈ c.derived, key ∈ c.working ∨ c.form.pending = some key ∨
    c.form.session.held = some key ∨
    c.form.memory.bytes key = List.replicate Chain.digestLength 0
  left : c.form.quitting = true → c.form.pending = none ∧ c.form.session.held = none

namespace Sound

variable {c : Custody} (h : Sound c)
include h

theorem call_taken {key : BufferId} (hp : c.form.pending = some key) :
    Session.Call c.form.memory c.form.session (c.form.taken key).memory (c.form.taken key).session :=
  Session.unlock_call c.form.clock (.buffer key) Session.standardTtl h.session
    (h.buffers key (h.pending key hp)).1

theorem held_taken {key : BufferId} (hp : c.form.pending = some key) :
    (c.form.taken key).session.held = some key :=
  Session.held_unlock c.form.clock Session.standardTtl (h.buffers key (h.pending key hp)).2.1

theorem key_eq {key other : BufferId} (hk : key ∈ c.derived) (ho : other ∈ c.derived) : key = other := by
  have hlen : c.derived.length ≤ 1 := Nat.le_trans (Nat.le_add_left _ _) h.once
  obtain ⟨i, hi, rfl⟩ := List.getElem_of_mem hk
  obtain ⟨j, hj, rfl⟩ := List.getElem_of_mem ho
  congr 1
  omega

theorem buffers_wipes {m : Memory} (hw : Wipes c.form.memory m) : ∀ key ∈ c.derived,
    m.Holds key ∧ m.isFrozen key = false ∧ (m.bytes key).length = Chain.digestLength := by
  intro key hk
  obtain ⟨hhold, hfrozen, hlen⟩ := h.buffers key hk
  exact ⟨hw.holds hhold, (hw.frozen key hhold).trans hfrozen, (hw.length hhold).trans hlen⟩

/-- A key that is held, or zero, is held or zero after the session was used. -/
theorem held_or_zero {m : Memory} {s : Session} (hsafe : Session.Safe c.form.memory c.form.session m s)
    {key : BufferId} (hk : key ∈ c.derived) (hp : c.form.session.held = some key ∨
      c.form.memory.bytes key = List.replicate Chain.digestLength 0) :
    s.held = some key ∨ m.bytes key = List.replicate Chain.digestLength 0 := by
  obtain ⟨hhold, -, hlen⟩ := h.buffers key hk
  rcases hp with hp | hz
  · by_cases hs : s.held = some key
    · exact .inl hs
    · rw [hsafe.released key hp hs, hlen]
      exact .inr rfl
  · exact .inr (hsafe.wipes.zeros hhold hz)

end Sound

theorem sound_new {f : Form} (hs : Session.Sound f.memory f.session) (hjobs : f.jobs = [])
    (hpending : f.pending = none) (hquitting : f.quitting = false) : Sound ⟨f, [], []⟩ := by
  refine ⟨hs, by simp [hjobs], fun _ => ⟨hjobs, rfl⟩, nofun, fun key hk => ?_, nofun, nofun,
    fun hq => ?_⟩
  · rw [hpending] at hk
    cases hk
  · rw [hquitting] at hq
    cases hq

/-! ## Moves -/

/-- What an event comes to for the keys; `leaving` tells whether it leaves the form. -/
inductive Moves (c : Custody) : Bool → Custody → Prop
  /-- At most something is typed. -/
  | typed {f : Form} (h : Typed c.form f) : Moves c false { c with form := f }
  /-- At most the session lets go of its key. -/
  | kept {f : Form} (h : Keeps c.form f) : Moves c false { c with form := f }
  /-- The session takes the pending key. -/
  | taken {key : BufferId} {f : Form} (hp : c.form.pending = some key)
      (h : Keeps (c.form.taken key) f) : Moves c false { c with form := f }
  /-- A worker ends without a key. -/
  | failed {i : Nat} {m : Memory} {log : List Log.Record} (hi : i < c.form.jobs.length)
      (hw : Wipes c.form.memory m) :
      Moves c false
        { c with form := { c.form with jobs := c.form.jobs.eraseIdx i, memory := m, log := log } }
  /-- A worker derives a key, in a writable buffer of its length. -/
  | derived {i : Nat} {key : BufferId} {m : Memory} {log : List Log.Record}
      (hi : i < c.form.jobs.length) (hw : Wipes c.form.memory m)
      (hkey : m.Holds key ∧ m.isFrozen key = false ∧ (m.bytes key).length = Chain.digestLength) :
      Moves c false
        ⟨{ c.form with jobs := c.form.jobs.eraseIdx i, memory := m, log := log },
          c.working ++ [key], c.derived ++ [key]⟩
  /-- A worker hands its key over. -/
  | delivered {i : Nat} {key : BufferId} (hi : c.working[i]? = some key) :
      Moves c false
        { c with form := (c.form.deliver key).2, working := c.working.eraseIdx i }
  /-- The form is left. -/
  | left {f : Form} (h : Left c.form f) : Moves c true { c with form := f }

theorem moves_step {c : Custody} (h : Sound c) (e : Form.Event) : Moves c e.leaves (c.step e) := by
  have hsame : Moves c false c := .typed (Typed.refl c.form)
  cases e with
  | mount =>
    obtain ⟨f, hf, ht⟩ := c.form.mount_typed
    simp only [step, hf]
    exact .typed ht
  | press e =>
    obtain ⟨taken, f, hf, hcase⟩ := c.form.press_cases e
    simp only [step, hf]
    rcases hcase with ⟨he, rfl⟩ | ⟨he, hcase⟩
    · rw [Form.Event.leaves, decide_eq_true he]
      exact .left c.form.left_quit
    · rw [Form.Event.leaves, decide_eq_false he]
      rcases hcase with rfl | ht
      · exact .kept (Form.keeps_copyKey h.session)
      · exact .typed ht
  | derive i =>
    simp only [step]
    split
    · exact hsame
    · next job hjob =>
      have hi := (List.getElem?_eq_some_iff.1 hjob).1
      obtain ⟨hw, hkey⟩ := Form.compute_kept { c.form with jobs := c.form.jobs.eraseIdx i } job
      split
      · next key f heq =>
        rw [heq] at hw hkey
        obtain rfl : _ = f := congrArg Prod.snd heq
        exact .derived hi hw (hkey key rfl)
      · next e f heq =>
        rw [heq] at hw
        obtain rfl : _ = f := congrArg Prod.snd heq
        exact .failed hi hw
  | deliver i =>
    simp only [step]
    split
    · exact hsame
    · next key hkey => exact .delivered hkey
  | notice finished name report =>
    rcases c.form.workerChanged_cases finished name report with ⟨key, hp, hadopt⟩ | ht
    · simp only [step, hadopt]
      exact .taken hp (Form.keeps_adopt (h.call_taken hp).sound)
    · exact .typed ht
  | copy => exact .kept (Form.keeps_copyKey h.session)
  | quit => exact .left c.form.left_quit
  | unmount => exact .left c.form.left_wipeSecrets
  | setClock now => exact .typed ⟨rfl, rfl, rfl, rfl, id, .inl rfl⟩

/-! ## Moves keep keys in place -/

namespace Sound

variable {c : Custody} (h : Sound c)
include h

theorem typed {f : Form} (ht : Typed c.form f) : Sound { c with form := f } := by
  obtain ⟨hm, hs, hp, hq, hdone, hjobs⟩ := ht
  have hback : f.machine.done = false → c.form.machine.done = false := fun hd =>
    Bool.eq_false_iff.2 fun hd' => by
      rw [hdone hd'] at hd
      cases hd
  refine ⟨?_, ?_, fun hd => ?_, h.working, ?_, ?_, ?_, ?_⟩
  · rw [hm, hs]
    exact h.session
  · rcases hjobs with hj | ⟨hd, -, hj⟩
    · rw [hj]
      exact h.once
    · obtain ⟨hnil, hnone⟩ := h.typing hd
      simp only [hj, hnil, hnone, List.length_nil]
      exact Nat.le_refl 1
  · obtain ⟨hnil, hnone⟩ := h.typing (hback hd)
    rcases hjobs with hj | ⟨-, hd', -⟩
    · exact ⟨hj.trans hnil, hnone⟩
    · rw [hd] at hd'
      cases hd'
  · rw [hp]
    exact h.pending
  · rw [hm]
    exact h.buffers
  · rw [hm, hs, hp]
    exact h.placed
  · rw [hq, hp, hs]
    exact h.left

theorem kept {f : Form} (hk : Keeps c.form f) : Sound { c with form := f } := by
  refine ⟨hk.safe.sound, ?_, ?_, h.working, ?_, h.buffers_wipes hk.safe.wipes, fun key hkey => ?_,
    fun hq => ?_⟩
  · rw [hk.jobs]
    exact h.once
  · rw [hk.machine, hk.jobs]
    exact h.typing
  · rw [hk.pending]
    exact h.pending
  · rw [hk.pending]
    exact (h.placed key hkey).imp id (.imp id (h.held_or_zero hk.safe hkey))
  · obtain ⟨hp, hs⟩ := h.left (hk.quitting ▸ hq)
    exact ⟨hk.pending.trans hp, hk.held.elim (·.trans hs) id⟩

/-- The pending key becomes the session's. -/
theorem taken {key : BufferId} (hp : c.form.pending = some key) :
    Sound { c with form := c.form.taken key } := by
  have hcall := h.call_taken hp
  refine ⟨hcall.sound, h.once, h.typing, h.working, nofun, h.buffers_wipes hcall.wipes,
    fun other hother => ?_, fun hq => ?_⟩
  · rcases h.placed other hother with hw | hpend | hheld
    · exact .inl hw
    · obtain rfl : key = other := Option.some.inj (hp.symm.trans hpend)
      exact .inr (.inr (.inl (h.held_taken hp)))
    · exact .inr (.inr (h.held_or_zero hcall.toSafe hother hheld))
  · rw [(h.left hq).1] at hp
    cases hp

theorem failed (i : Nat) (log : List Log.Record) {m : Memory} (hw : Wipes c.form.memory m) :
    Sound { c with
      form := { c.form with jobs := c.form.jobs.eraseIdx i, memory := m, log := log } } := by
  have hlen : (c.form.jobs.eraseIdx i).length ≤ c.form.jobs.length := List.length_eraseIdx_le _ _
  refine ⟨h.session.sameKinds hw.toSameKinds, ?_, fun hd => ?_, h.working, h.pending,
    h.buffers_wipes hw, fun key hkey => ?_, h.left⟩
  · exact Nat.le_trans (Nat.add_le_add_right hlen _) h.once
  · obtain ⟨hnil, hnone⟩ := h.typing hd
    exact ⟨by simp [hnil], hnone⟩
  · have hhold := (h.buffers key hkey).1
    exact (h.placed key hkey).imp id (.imp id (.imp id (hw.zeros hhold)))

theorem derived {i : Nat} {key : BufferId} {m : Memory} {log : List Log.Record}
    (hi : i < c.form.jobs.length) (hw : Wipes c.form.memory m)
    (hkey : m.Holds key ∧ m.isFrozen key = false ∧ (m.bytes key).length = Chain.digestLength) :
    Sound ⟨{ c.form with jobs := c.form.jobs.eraseIdx i, memory := m, log := log },
      c.working ++ [key], c.derived ++ [key]⟩ := by
  have hf := h.failed i log hw
  have hlen := List.length_eraseIdx_of_lt hi
  refine ⟨hf.session, ?_, fun hd => ?_, fun other ho => ?_, fun other ho => ?_, fun other ho => ?_,
    fun other ho => ?_, hf.left⟩
  · have honce := h.once
    simp only [List.length_append, List.length_singleton, hlen]
    omega
  · rw [(h.typing hd).1] at hi
    cases hi
  · exact List.mem_append.2 ((List.mem_append.1 ho).imp (h.working other) id)
  · exact List.mem_append_left _ (h.pending other ho)
  · rcases List.mem_append.1 ho with ho | ho
    · exact hf.buffers other ho
    · rw [List.mem_singleton.1 ho]
      exact hkey
  · rcases List.mem_append.1 ho with ho | ho
    · exact (hf.placed other ho).imp (List.mem_append_left _) id
    · exact .inl (List.mem_append_right _ ho)

theorem delivered {i : Nat} {key : BufferId} (hi : c.working[i]? = some key) :
    Sound { c with form := (c.form.deliver key).2, working := c.working.eraseIdx i } := by
  have hkey : key ∈ c.derived := h.working key (List.mem_of_getElem? hi)
  have hstill : ∀ other ∈ c.working, key = other ∨ other ∈ c.working.eraseIdx i := by
    intro other ho
    obtain ⟨j, hj⟩ := List.mem_iff_getElem?.1 ho
    by_cases hji : j = i
    · rw [hji, hi] at hj
      exact .inl (Option.some.inj hj)
    · exact .inr (List.mem_eraseIdx_iff_getElem?.2 ⟨j, hji, hj⟩)
  have hworking : ∀ other ∈ c.working.eraseIdx i, other ∈ c.derived := fun other ho =>
    h.working other (List.mem_of_mem_eraseIdx ho)
  unfold Form.deliver
  split
  · have hw := Wipes.zero c.form.memory key
    have hz : (c.form.memory.zero key).bytes key = List.replicate Chain.digestLength 0 := by
      rw [Memory.bytes_zero, if_pos rfl, (h.buffers key hkey).2.2]
    refine ⟨h.session.sameKinds hw.toSameKinds, h.once, h.typing, hworking, h.pending,
      h.buffers_wipes hw, fun other ho => ?_, h.left⟩
    rcases h.placed other ho with hk | hp | hs | hzero
    · rcases hstill other hk with rfl | hk
      · exact .inr (.inr (.inr hz))
      · exact .inl hk
    · exact .inr (.inl hp)
    · exact .inr (.inr (.inl hs))
    · exact .inr (.inr (.inr (hw.zeros (h.buffers other ho).1 hzero)))
  · next hq =>
    refine ⟨h.session, h.once, h.typing, hworking, fun other ho => Option.some.inj ho ▸ hkey,
      h.buffers, fun other ho => ?_, fun hq' => absurd hq' hq⟩
    rw [h.key_eq ho hkey]
    exact .inr (.inl rfl)

theorem leftForm {f : Form} (hl : Left c.form f) : Sound { c with form := f } := by
  have hs : f.session.held = none := by rw [hl.session]; rfl
  refine ⟨?_, ?_, ?_, h.working, ?_, h.buffers_wipes hl.wipes, fun key hkey => ?_,
    fun _ => ⟨hl.pending, hs⟩⟩
  · rw [hl.session]
    exact Session.sound_closed f.memory
  · rw [hl.jobs]
    exact h.once
  · rw [hl.machine, hl.jobs]
    exact h.typing
  · rw [hl.pending]
    exact nofun
  · obtain ⟨hhold, -, hlen⟩ := h.buffers key hkey
    rcases h.placed key hkey with hw | hp | hp | hz
    · exact .inl hw
    · exact .inr (.inr (.inr (hlen ▸ hl.zero key hhold (.inl hp))))
    · exact .inr (.inr (.inr (hlen ▸ hl.zero key hhold (.inr hp))))
    · exact .inr (.inr (.inr (hl.wipes.zeros hhold hz)))

end Sound

theorem Sound.moves {c c' : Custody} {leaving : Bool} (h : Sound c) (hm : Moves c leaving c') :
    Sound c' := by
  cases hm with
  | typed ht => exact h.typed ht
  | kept hk => exact h.kept hk
  | taken hp hk => exact (h.taken hp).kept hk
  | failed hi hw => exact h.failed _ _ hw
  | derived hi hw hkey => exact h.derived hi hw hkey
  | delivered hi => exact h.delivered hi
  | left hl => exact h.leftForm hl

theorem Sound.run {c : Custody} (h : Sound c) (events : List Form.Event) : Sound (c.run events) := by
  induction events generalizing c with
  | nil => exact h
  | cons e events ih => exact ih (h.moves (moves_step h e))

/-- A form that was left stays left, and an event that leaves it leaves it. -/
theorem Moves.quitting {c c' : Custody} {leaving : Bool} (hm : Moves c leaving c')
    (hq : leaving = true ∨ c.form.quitting = true) : c'.form.quitting = true := by
  cases hm with
  | left hl => exact hl.quitting
  | typed ht => exact ht.quitting.trans (hq.resolve_left nofun)
  | kept hk => exact hk.quitting.trans (hq.resolve_left nofun)
  | taken hp hk => exact hk.quitting.trans (hq.resolve_left nofun)
  | failed hi hw => exact hq.resolve_left nofun
  | derived hi hw hkey => exact hq.resolve_left nofun
  | delivered hi =>
    have hq' := hq.resolve_left nofun
    simp only [Form.deliver, hq', if_true]

theorem quitting_run {c : Custody} (h : Sound c) {events : List Form.Event}
    (hq : (∃ e ∈ events, e.leaves = true) ∨ c.form.quitting = true) :
    (c.run events).form.quitting = true := by
  induction events generalizing c with
  | nil => exact hq.resolve_left nofun
  | cons e events ih =>
    have hm := moves_step h e
    refine ih (h.moves hm) ?_
    rcases hq with ⟨e', he', hl⟩ | hq
    · rcases List.mem_cons.1 he' with rfl | he'
      · exact .inr (hm.quitting (.inl hl))
      · exact .inl ⟨e', he', hl⟩
    · exact .inr (hm.quitting (.inr hq))

/-- **No key is lost.** A form is set up with a session, and then anything happens to it and its workers, in
any order. Every key that was ever derived lies with a worker that has not handed it over, or is pending, or
is held by the session, or is zero in all its bytes. Once the form was left, nothing is pending and the
session is locked ever after, and a key whose worker has ended is zero. -/
theorem custody_run (settings : Settings) (rounds : Nat) (clipboard : Clipboard)
    (display : List Char → Except String Unit) (now : Float) {m : Memory} {s : Session} (hs : Session.Sound m s) (events : List Form.Event) :
    let f : Form :=
      { Form.new settings rounds clipboard display with memory := m, session := s, clock := now }
    let c := run ⟨f, [], []⟩ events
    (∀ key ∈ c.derived, key ∈ c.working ∨ c.form.pending = some key ∨
      c.form.session.held = some key ∨ c.form.memory.bytes key = List.replicate 32 0) ∧
    ((∃ e ∈ events, e.leaves = true) → c.form.pending = none ∧ c.form.session.held = none ∧
      ∀ key ∈ c.derived, key ∉ c.working → c.form.memory.bytes key = List.replicate 32 0) := by
  intro f c
  have h₀ : Sound ⟨f, [], []⟩ := sound_new hs rfl rfl rfl
  have h : Sound c := h₀.run events
  refine ⟨h.placed, fun hleft => ?_⟩
  obtain ⟨hpending, hheld⟩ := h.left (quitting_run h₀ (.inl hleft))
  refine ⟨hpending, hheld, fun key hkey hworking => ?_⟩
  rcases h.placed key hkey with hw | hp | hs | hz
  · exact absurd hw hworking
  · rw [hpending] at hp
    cases hp
  · rw [hheld] at hs
    cases hs
  · exact hz

/-- A password is given up front to a form whose session holds a key already; the form is left while the
worker is at work, which then hands its key over. -/
theorem custody_run_late :
    Session.Sound ⟨[⟨[7, 8, 9], false, 0⟩]⟩ ⟨some 0, none⟩ ∧
    ∃ c, c = run ⟨{ Form.new ⟨List.replicate 16 1, some
        "720885-000000-000000-000000-000000-000000-000000-000011".toList, 0, false⟩ 1 .working
          (fun _ => .ok ()) with memory := ⟨[⟨[7, 8, 9], false, 0⟩]⟩, session := ⟨some 0, none⟩, clock := 0 }, [], []⟩
        [.mount, .derive 0, .quit, .deliver 0] ∧
      c.derived = [4] ∧ c.working = [] ∧ c.form.pending = none ∧ c.form.session.held = none ∧
      c.form.memory.bytes 4 = List.replicate 32 0 := by
  have hs : Session.Sound ⟨[⟨[7, 8, 9], false, 0⟩]⟩ ⟨some 0, none⟩ := fun b hb => by
    obtain rfl : 0 = b := Option.some.inj hb
    exact ⟨Nat.zero_lt_one, rfl⟩
  obtain ⟨-, hleft⟩ := custody_run ⟨List.replicate 16 1, some
    "720885-000000-000000-000000-000000-000000-000000-000011".toList, 0, false⟩ 1 .working
    (fun _ => .ok ()) 0 hs
    [.mount, .derive 0, .quit, .deliver 0]
  obtain ⟨hpending, hheld, hzero⟩ := hleft ⟨.quit, by simp, rfl⟩
  refine ⟨hs, _, rfl, ?_, ?_, hpending, hheld, hzero 4 ?_ ?_⟩ <;> decide +kernel

end Custody

end KeyRecovery
