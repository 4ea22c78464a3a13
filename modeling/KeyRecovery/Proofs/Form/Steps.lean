import KeyRecovery.Form.Basic
import KeyRecovery.Proofs.Entry.Invariant
import KeyRecovery.Proofs.Session.Call

/-!
# What the handlers of the form do to keys

* `Typed f f'` : from `f` to `f'` something was typed; a completed password is asked for, once;
* `typed_feed`, `opened`, `mount_typed` : a stroke, and mounting, which never fails;
* `Pressed f e f'` : what key stroke `e` does; `press_ok` : it never fails;
* `copyKey_cases` : what copying the key does;
* `Keeps f f'` : from `f` to `f'` no more happens to keys than that the session lets go of its own;
* `keeps_copyKey`, `keeps_adopt` : so it is when the key is copied, and once the session took a pending key;
* `workerChanged_cases` : what a notice comes to;
* `compute_kept` : the key of a derivation lies in a new buffer, and no older one is written;
* `Left f f'`, `left_wipeSecrets`, `left_quit` : leaving wipes what was pending and what was held.
-/

namespace KeyRecovery.Form

open Memory (Frame SameKinds Wipes)

/-! ## Typing -/

/-- From `f` to `f'` something was typed. The machine, the screen and the log may change, and the password
that ends the entry is asked for. -/
structure Typed (f f' : Form) : Prop where
  memory : f'.memory = f.memory
  session : f'.session = f.session
  pending : f'.pending = f.pending
  quitting : f'.quitting = f.quitting
  done : f.machine.done = true → f'.machine.done = true
  jobs : f'.jobs = f.jobs ∨
    f.machine.done = false ∧ f'.machine.done = true ∧ f'.jobs.length = f.jobs.length + 1

namespace Typed

theorem refl (f : Form) : Typed f f := ⟨rfl, rfl, rfl, rfl, id, .inl rfl⟩

theorem trans {f f' f'' : Form} (h : Typed f f') (h' : Typed f' f'') : Typed f f'' := by
  refine ⟨h'.memory.trans h.memory, h'.session.trans h.session, h'.pending.trans h.pending,
    h'.quitting.trans h.quitting, fun hd => h'.done (h.done hd), ?_⟩
  rcases h.jobs with hj | ⟨hd, hd', hj⟩
  · rcases h'.jobs with hj' | ⟨hn, hd', hj'⟩
    · exact .inl (hj'.trans hj)
    · have hd : f.machine.done = false := Bool.eq_false_iff.2 fun hd => by
        rw [h.done hd] at hn
        cases hn
      exact .inr ⟨hd, hd', by rw [hj', hj]⟩
  · rcases h'.jobs with hj' | ⟨hn, -, -⟩
    · exact .inr ⟨hd, h'.done hd', by rw [hj', hj]⟩
    · rw [hd'] at hn
      cases hn

end Typed

/-- The status after a stroke, and the records, are all that reporting it changes. -/
theorem reportStroke_eq (f : Form) :
    ∃ status screen log, f.reportStroke = { f with status := status, screen := screen, log := log } := by
  unfold reportStroke
  split
  · exact ⟨_, _, _, rfl⟩
  · split <;> exact ⟨_, _, _, rfl⟩

theorem typed_feed {f f' : Form} {text : List Char} (h : f.feed text = .ok f') : Typed f f' := by
  unfold feed at h
  split at h
  · cases h
  · next m hm =>
    cases h
    obtain ⟨hd, -⟩ := Machine.feed_eq_ok_iff.1 hm
    have hne : f.machine.done = true → m.done = true := fun hd' => by
      rw [hd] at hd'
      cases hd'
    obtain ⟨status, screen, log, hreport⟩ := reportStroke_eq { f with machine := m }
    rw [hreport]
    simp only [requestKey, refresh]
    split
    · next password hp =>
      have hdone : m.done = true := by
        rw [Machine.done, (Machine.password?_eq_some_iff.1 hp).1]
        rfl
      exact ⟨rfl, rfl, rfl, rfl, hne, .inr ⟨hd, hdone, List.length_append⟩⟩
    · exact ⟨rfl, rfl, rfl, rfl, hne, .inl rfl⟩

/-- A form whose machine is not done takes every stroke. -/
theorem feed_ok {f : Form} (hd : f.machine.done = false) (text : List Char) :
    ∃ f', f.feed text = .ok f' := by
  unfold feed Machine.feed
  rw [hd]
  exact ⟨_, rfl⟩

/-- What every stroke keeps is kept by a text, which is never refused. -/
theorem feedAll_induction {P : Form → Prop} (hfeed : ∀ {f f' : Form} {c : Char},
    f.feed [c] = .ok f' → P f → P f') {f : Form} (h : P f) (text : List Char) :
    ∃ f', f.feedAll text = .ok f' ∧ P f' := by
  induction text generalizing f with
  | nil => exact ⟨f, rfl, h⟩
  | cons c text ih =>
    unfold feedAll
    cases hd : f.machine.done with
    | true => exact ⟨f, rfl, h⟩
    | false =>
      obtain ⟨f₁, h₁⟩ := feed_ok hd [c]
      obtain ⟨f₂, h₂, hp⟩ := ih (hfeed h₁ h)
      rw [h₁]
      exact ⟨f₂, h₂, hp⟩

theorem feedAll_typed (f : Form) (text : List Char) : ∃ f', f.feedAll text = .ok f' ∧ Typed f f' :=
  feedAll_induction (fun hf ht => ht.trans (typed_feed hf)) (Typed.refl f) text

def opened (f : Form) : Form :=
  ({ f with screen := some ⟨[], "", ""⟩ } : Form).refresh.setStatus
    ("Block 1 of " ++ toString Password.blockCount)

theorem mount_eq (f : Form) : f.mount = f.opened.feedAll (f.settings.password.getD []) := by
  unfold mount opened
  simp only [refresh, setStatus]
  cases f.settings.password <;> rfl

theorem mount_typed (f : Form) : ∃ f', f.mount = .ok f' ∧ Typed f f' := by
  rw [mount_eq]
  obtain ⟨f', h, ht⟩ := feedAll_typed f.opened (f.settings.password.getD [])
  exact ⟨f', h, ht.memory, ht.session, ht.pending, ht.quitting, ht.done, ht.jobs⟩

/-- What a key stroke does: it leaves, copies the key, is ignored, or is typed. -/
inductive Pressed (f : Form) (e : KeyEvent) : Form → Prop
  | left (he : e.name = "escape".toList) : Pressed f e f.quit
  | copied (he : e.name ≠ "escape".toList) (hd : f.machine.done = true) : Pressed f e f.copyKey
  | ignored (he : e.name ≠ "escape".toList) (h : f.machine.done = true ∨ strokeOf e = none) :
      Pressed f e f
  | typed {text : List Char} {f' : Form} (he : e.name ≠ "escape".toList) (hd : f.machine.done = false)
      (hs : strokeOf e = some text) (h : f.feed text = .ok f') : Pressed f e f'

theorem press_ok (f : Form) (e : KeyEvent) : ∃ taken f', f.press e = .ok (taken, f') ∧ Pressed f e f' := by
  unfold press
  split
  · next he => exact ⟨_, _, rfl, .left he⟩
  · next he =>
    split
    · next hd =>
      split
      · exact ⟨_, _, rfl, .copied he hd⟩
      · exact ⟨_, _, rfl, .ignored he (.inl hd)⟩
    · next hd =>
      have hd := Bool.eq_false_iff.2 hd
      split
      · next text hs =>
        obtain ⟨f', h⟩ := feed_ok hd text
        rw [h]
        exact ⟨_, _, rfl, .typed he hd hs h⟩
      · next hs => exact ⟨_, _, rfl, .ignored he (.inr hs)⟩

theorem press_cases (f : Form) (e : KeyEvent) : ∃ taken f', f.press e = .ok (taken, f') ∧
    (e.name = "escape".toList ∧ f' = f.quit ∨
      e.name ≠ "escape".toList ∧ (f' = f.copyKey ∨ Typed f f')) := by
  obtain ⟨taken, f', hf, hp⟩ := f.press_ok e
  refine ⟨taken, f', hf, ?_⟩
  cases hp with
  | left he => exact .inl ⟨he, rfl⟩
  | copied he hd => exact .inr ⟨he, .inl rfl⟩
  | ignored he h => exact .inr ⟨he, .inr (Typed.refl f)⟩
  | typed he hd hs h => exact .inr ⟨he, .inr (typed_feed h)⟩

/-! ## The session -/

structure Keeps (f f' : Form) : Prop where
  machine : f'.machine = f.machine
  jobs : f'.jobs = f.jobs
  pending : f'.pending = f.pending
  quitting : f'.quitting = f.quitting
  safe : Session.Safe f.memory f.session f'.memory f'.session
  held : f'.session.held = f.session.held ∨ f'.session.held = none

theorem Keeps.refl {f : Form} (hs : Session.Sound f.memory f.session) : Keeps f f :=
  ⟨rfl, rfl, rfl, rfl, Session.Safe.refl hs, .inl rfl⟩

theorem Keeps.trans {f f' f'' : Form} (h : Keeps f f') (h' : Keeps f' f'')
    (hs : Session.Sound f.memory f.session) : Keeps f f'' := by
  refine ⟨h'.machine.trans h.machine, h'.jobs.trans h.jobs, h'.pending.trans h.pending,
    h'.quitting.trans h.quitting, h.safe.trans h'.safe hs, ?_⟩
  rcases h'.held with hh | hh
  · rw [hh]
    exact h.held
  · exact .inr hh

theorem Keeps.of_same {f g f' : Form} (h : Keeps g f') (hm : g.machine = f.machine)
    (hj : g.jobs = f.jobs) (hp : g.pending = f.pending) (hq : g.quitting = f.quitting)
    (hmem : g.memory = f.memory) (hs : g.session = f.session) : Keeps f f' :=
  ⟨h.machine.trans hm, h.jobs.trans hj, h.pending.trans hp, h.quitting.trans hq,
    hmem ▸ hs ▸ h.safe, hs ▸ h.held⟩

/-- Copying asks the session for its key, and says what came of it; a copy that is taken changes the clipboard
and is noted. -/
theorem copyKey_cases (f : Form) : ∃ notices,
    f.copyKey = { f.sessionKey.2 with notices := notices } ∨
    ∃ key c, f.sessionKey.1 = .ok key ∧
      f.sessionKey.2.clipboard.put (Hex.dump [] (f.sessionKey.2.memory.bytes key)) = .ok c ∧
      f.copyKey = { f.sessionKey.2 with clipboard := c, copied := true, notices := notices } := by
  unfold copyKey
  split
  · next e f₁ heq =>
    obtain rfl : f.sessionKey.2 = f₁ := congrArg Prod.snd heq
    exact ⟨_, .inl rfl⟩
  · next key f₁ heq =>
    obtain rfl : f.sessionKey.2 = f₁ := congrArg Prod.snd heq
    split
    · next c hput => exact ⟨_, .inr ⟨key, c, congrArg Prod.fst heq, hput, rfl⟩⟩
    · exact ⟨_, .inl rfl⟩

section Session

variable {f : Form} (hs : Session.Sound f.memory f.session)
include hs

theorem keeps_sessionKey : Keeps f f.sessionKey.2 :=
  ⟨rfl, rfl, rfl, rfl, (Session.key_call f.clock hs).toSafe, Session.held_key_or f.clock⟩

theorem keeps_copyKey : Keeps f f.copyKey := by
  have h := keeps_sessionKey hs
  obtain ⟨notices, heq | ⟨key, c, -, -, heq⟩⟩ := f.copyKey_cases
  · rw [heq]
    exact ⟨h.machine, h.jobs, h.pending, h.quitting, h.safe, h.held⟩
  · rw [heq]
    exact ⟨h.machine, h.jobs, h.pending, h.quitting, h.safe, h.held⟩

theorem keeps_showKey (key : BufferId) : Keeps f (f.showKey key) := by
  unfold showKey
  simp only
  split
  · refine Keeps.of_same (keeps_copyKey ?_) rfl rfl rfl rfl rfl rfl
    exact hs
  · exact ⟨rfl, rfl, rfl, rfl, Session.Safe.refl hs, .inl rfl⟩

end Session

/-- The form once its session has taken a pending key, or tried to. -/
def taken (f : Form) (key : BufferId) : Form :=
  let (_, m, s) := f.session.unlock f.clock (.buffer key) Session.standardTtl f.memory
  { f with pending := none, memory := m, session := s }

theorem keeps_adopt {f : Form} {key : BufferId}
    (hs : Session.Sound (f.taken key).memory (f.taken key).session) :
    Keeps (f.taken key) (f.adopt key).2 := by
  have hkey := keeps_sessionKey hs
  unfold adopt
  simp only
  split
  · exact Keeps.refl hs
  · split
    · next e f₁ heq =>
      rw [show (f.taken key).sessionKey = _ from heq] at hkey
      exact hkey
    · next held f₁ heq =>
      rw [show (f.taken key).sessionKey = _ from heq] at hkey
      exact hkey.trans (keeps_showKey hkey.safe.sound held) hs

theorem typed_reportFailure (f : Form) (reason : String) : Typed f (f.reportFailure reason).2 := by
  unfold reportFailure
  simp only
  split <;> exact ⟨rfl, rfl, rfl, rfl, id, .inl rfl⟩

theorem workerChanged_cases (f : Form) (finished : Bool) (name : String) (report : Datum) :
    (∃ key, f.pending = some key ∧ (f.workerChanged finished name report).2 = (f.adopt key).2) ∨
      Typed f (f.workerChanged finished name report).2 := by
  unfold workerChanged settle
  split
  · split
    · exact .inr (Typed.refl f)
    · exact .inr (typed_reportFailure f _)
    · split
      · next key hkey => exact .inl ⟨key, hkey, rfl⟩
      · exact .inr (Typed.refl f)
  · exact .inr (Typed.refl f)

/-! ## Deriving -/

theorem compute_kept (f : Form) (job : Job) :
    Wipes f.memory (f.compute job).2.memory ∧ ∀ key, (f.compute job).1 = .ok key →
      (f.compute job).2.memory.Holds key ∧ (f.compute job).2.memory.isFrozen key = false ∧
      ((f.compute job).2.memory.bytes key).length = Chain.digestLength := by
  let salt : Ref := .buffer (f.memory.allocAs true job.salt).1
  let m := (f.memory.allocAs true job.salt).2
  have hsalt : m.Holds salt.id := Memory.holds_allocAs true f.memory job.salt
  have hkinds : SameKinds f.memory m := SameKinds.allocAs true f.memory job.salt
  have hframe : Frame f.memory m fun _ => False := Frame.allocAs true f.memory job.salt _
  obtain ⟨hderive, hkey⟩ := derive_kept Sha256.hasher f.rounds f.settings.level job.password
    salt m () hsalt
  have hderived := sameKinds_derive Sha256.hasher f.rounds f.settings.level job.password
    salt m () hsalt
  refine ⟨Wipes.of_frame (hframe.trans hderive) (hkinds.trans hderived), fun key hok => ?_⟩
  obtain ⟨hnew, hhold, hlen⟩ := hkey key hok
  refine ⟨hhold, ?_, hlen⟩
  have hfrozen := isFrozen_derive Sha256.hasher f.rounds f.settings.level job.password
    salt m () key
  exact hfrozen.trans (Memory.isFrozen_of_not_holds hnew)

/-! ## Leaving -/

/-- From `f` to `f'` the form was left: nothing is pending or held, and what was is zero. -/
structure Left (f f' : Form) : Prop where
  machine : f'.machine = f.machine
  jobs : f'.jobs = f.jobs
  pending : f'.pending = none
  quitting : f'.quitting = true
  session : f'.session = .closed
  wipes : Wipes f.memory f'.memory
  zero : ∀ key, f.memory.Holds key → f.pending = some key ∨ f.session.held = some key →
    f'.memory.bytes key = List.replicate (f.memory.bytes key).length 0

/-- Memory once the pending key is wiped. -/
def pendingWiped (f : Form) : Memory :=
  match f.pending with
  | some key => f.memory.zero key
  | none => f.memory

theorem wipes_pendingWiped (f : Form) : Wipes f.memory f.pendingWiped := by
  unfold pendingWiped
  split
  · exact Wipes.zero f.memory _
  · exact Wipes.refl f.memory

/-- Beside keys, leaving changes no more than what was copied, and the log. -/
theorem wipeSecrets_eq (f : Form) : ∃ clipboard log, f.wipeSecrets =
    { f with quitting := true, pending := none, memory := f.session.wiped f.pendingWiped,
             session := .closed, copied := false, clipboard := clipboard, log := log } := by
  unfold wipeSecrets
  simp only
  split
  · split <;> exact ⟨_, _, rfl⟩
  · next hc =>
    refine ⟨f.clipboard, f.log, ?_⟩
    rw [Bool.eq_false_iff.2 hc]
    rfl

theorem left_wipeSecrets (f : Form) : Left f f.wipeSecrets := by
  have hpending := wipes_pendingWiped f
  have hsession := Session.wipes_wiped f.pendingWiped f.session
  have hzero (key : BufferId) (hk : f.memory.Holds key)
      (h : f.pending = some key ∨ f.session.held = some key) :
      (f.session.wiped f.pendingWiped).bytes key = List.replicate (f.memory.bytes key).length 0 := by
    rcases h with h | h
    · have hz : f.pendingWiped.bytes key = List.replicate (f.memory.bytes key).length 0 := by
        simp only [pendingWiped, h]
        rw [Memory.bytes_zero, if_pos rfl]
      exact hsession.zeros (hpending.holds hk) hz
    · rw [Session.bytes_wiped h, hpending.length hk]
  obtain ⟨clipboard, log, heq⟩ := f.wipeSecrets_eq
  rw [heq]
  exact ⟨rfl, rfl, rfl, rfl, rfl, hpending.trans hsession, hzero⟩

theorem left_quit (f : Form) : Left f f.quit := by
  have h := left_wipeSecrets f
  exact ⟨h.machine, h.jobs, h.pending, h.quitting, h.session, h.wipes, h.zero⟩

end KeyRecovery.Form
