import KeyRecovery.Proofs.Form.Mount
import Mathlib.Data.List.Induction

/-!
# What key strokes come to

* `Machine.fed inputs`, `Machine.Fed m inputs k` : the machine after pieces of input; it was given `k` of them,
  which are all, or those up to the one that completes the password;
* `Form.typedBy`, `Form.pressAll` : what a key stroke types, and the form after key strokes;
* `Form.Passed settings inputs f` : form `f` has given pieces of input to its machine, and has asked for the key
  of the password, if there is one;
* `Passed.feed`, `Passed.mount`, `Passed.pressed`, `Passed.pressAll` : so it is after input, after mounting, and
  after key strokes;
* `keys_run` : so the form types what it is given, never fails, and asks for one key at most.
-/

namespace KeyRecovery

namespace Machine

/-! ## The machine -/

def fed (inputs : List (List Char)) : Machine := after (inputs.map .feed)

theorem fed_concat (inputs : List (List Char)) (text : List Char) :
    fed (inputs ++ [text]) = ((fed inputs).perform (.feed text)).2 := by
  rw [fed, List.map_append, List.map_singleton, after_concat]
  rfl

/-- Input never aborts. -/
theorem stage_fed_ne_aborted (inputs : List (List Char)) : (fed inputs).stage ≠ .aborted := by
  induction inputs using List.reverseRecOn with
  | nil => nofun
  | append_singleton inputs text ih =>
    rw [fed_concat]
    cases hd : (fed inputs).done with
    | true =>
      rw [perform_feed_of_done hd]
      exact ih
    | false =>
      rw [perform_feed hd]
      exact press_stage_ne_aborted _ _ hd

/-- Machine `m` was given the first `k` of some pieces of input, none of them too late; these are all, or the
last of them completes the password. -/
structure Fed (m : Machine) (inputs : List (List Char)) (k : Nat) : Prop where
  le : k ≤ inputs.length
  machine : m = fed (inputs.take k)
  taking : ∀ j < k, (fed (inputs.take j)).done = false
  last : k = inputs.length ∨ m.stage = .allBlocksValid

namespace Fed

variable {m : Machine} {inputs : List (List Char)} {k : Nat}

theorem start : Fed start [] 0 := ⟨Nat.le_refl 0, rfl, nofun, .inl rfl⟩

theorem stage (h : m.Fed inputs k) (hd : m.done = true) : m.stage = .allBlocksValid := by
  have ha : m.stage ≠ .aborted := by
    rw [h.machine]
    exact stage_fed_ne_aborted _
  exact (done_eq_true_iff.1 hd).resolve_right ha

/-- A machine that takes input was given all of it. -/
theorem length (h : m.Fed inputs k) (hd : m.done = false) : k = inputs.length :=
  h.last.resolve_right (done_eq_false_iff.1 hd).1

theorem feed (h : m.Fed inputs k) (hd : m.done = false) (text : List Char) :
    (m.press (.ofText text)).Fed (inputs ++ [text]) (k + 1) := by
  obtain rfl := h.length hd
  have hm : m = fed inputs := by
    rw [h.machine, List.take_length]
  have hlen : inputs.length + 1 = (inputs ++ [text]).length := by
    rw [List.length_append, List.length_singleton]
  refine ⟨Nat.le_of_eq hlen, ?_, fun j hj => ?_, .inl hlen⟩
  · rw [hlen, List.take_length, fed_concat, ← hm, perform_feed hd]
  · rw [List.take_append_of_le_length (Nat.le_of_lt_succ hj)]
    rcases Nat.lt_or_eq_of_le (Nat.le_of_lt_succ hj) with hj | rfl
    · exact h.taking j hj
    · rw [List.take_length, ← hm]
      exact hd

/-- What comes after the password is not given to the machine. -/
theorem skip (h : m.Fed inputs k) (hd : m.done = true) (more : List (List Char)) :
    m.Fed (inputs ++ more) k := by
  refine ⟨?_, ?_, fun j hj => ?_, .inr (h.stage hd)⟩
  · rw [List.length_append]
    exact Nat.le_add_right_of_le h.le
  · rw [List.take_append_of_le_length h.le]
    exact h.machine
  · rw [List.take_append_of_le_length (Nat.le_of_lt (Nat.lt_of_lt_of_le hj h.le))]
    exact h.taking j hj

/-- A password that was typed has its length, and is accepted. -/
theorem accepted (h : m.Fed inputs k) {p : List Char} (hp : m.password? = some p) :
    p.length = Password.length ∧ ∃ ns, Password.shortValues p = .ok ns := by
  have hs : m.Sound := by
    rw [h.machine]
    exact sound_after _
  obtain ⟨hv, rfl⟩ := password?_eq_some_iff.1 hp
  obtain ⟨ns, hns, -⟩ := hs.shortValues_join (hs.valid hv)
  exact ⟨(Password.shortValues_eq_ok_iff.1 hns).1, ns, hns⟩

end Fed

end Machine

namespace Form

/-! ## The form -/

/-- What a key stroke types: the character that erases for backspace, else its own character if it is
printable. Escape types nothing. -/
def typedBy (e : KeyEvent) : List (List Char) :=
  if e.name = "escape".toList then []
  else if e.name = "backspace".toList then [['\x7f']]
  else if e.printable = true then e.character.toList
  else []

theorem typedBy_of_escape {e : KeyEvent} (he : e.name = "escape".toList) : typedBy e = [] := if_pos he

/-- But for escape, a key stroke types what it is to the machine. -/
theorem typedBy_eq {e : KeyEvent} (he : e.name ≠ "escape".toList) : typedBy e = (strokeOf e).toList := by
  unfold typedBy strokeOf
  rw [if_neg he]
  split
  · rfl
  · split <;> rfl

def pressAll (f : Form) : List KeyEvent → Except AlreadyFinished Form
  | [] => .ok f
  | e :: events =>
    match f.press e with
    | .error e => .error e
    | .ok (_, f) => f.pressAll events

/-- What every key stroke keeps is kept by all of them, and none fails. -/
theorem pressAll_induction {P : Form → Prop}
    (hpress : ∀ {f f' : Form} {e : KeyEvent}, Pressed f e f' → P f → P f') {f : Form} (h : P f)
    (events : List KeyEvent) : ∃ f', f.pressAll events = .ok f' ∧ P f' := by
  induction events generalizing f with
  | nil => exact ⟨f, rfl, h⟩
  | cons e events ih =>
    obtain ⟨taken, f₁, h₁, hp⟩ := f.press_ok e
    unfold pressAll
    rw [h₁]
    exact ih (hpress hp h)

/-- Copying the key changes nothing about the entry. -/
theorem entry_copyKey (f : Form) :
    f.copyKey.settings = f.settings ∧ f.copyKey.machine = f.machine ∧ f.copyKey.jobs = f.jobs := by
  obtain ⟨notices, heq | ⟨key, c, -, -, heq⟩⟩ := f.copyKey_cases
  · rw [heq]
    exact ⟨rfl, rfl, rfl⟩
  · rw [heq]
    exact ⟨rfl, rfl, rfl⟩

/-- Once the machine is done no key stroke reaches it. -/
theorem Pressed.machine_of_done {f f' : Form} {e : KeyEvent} (h : Pressed f e f')
    (hd : f.machine.done = true) : f'.machine = f.machine := by
  cases h with
  | left he => exact f.left_quit.machine
  | copied he hd' => exact f.entry_copyKey.2.1
  | ignored he hi => rfl
  | typed he hd' hs h =>
    rw [hd] at hd'
    cases hd'

theorem requests_eq_nil_iff {m : Machine} {salt : List UInt8} :
    requests m salt = [] ↔ m.stage ≠ .allBlocksValid := by
  rw [← Machine.password?_eq_none_iff, requests]
  cases m.password? <;> simp

/-- Form `f` has given some pieces of input to its machine, as long as that takes them, and has asked for the
key of the password they come to, if they come to one. -/
structure Passed (settings : Settings) (inputs : List (List Char)) (f : Form) : Prop where
  machine : ∃ k, f.machine.Fed inputs k
  jobs : f.jobs = requests f.machine settings.salt
  settings : f.settings = settings

namespace Passed

variable {settings : Settings} {inputs : List (List Char)} {f : Form} (h : Passed settings inputs f)
include h

/-- What leaves machine and jobs alone, with no input. -/
theorem same {f' : Form} (hs : f'.settings = f.settings) (hm : f'.machine = f.machine)
    (hj : f'.jobs = f.jobs) : Passed settings inputs f' :=
  ⟨hm ▸ h.machine, by rw [hj, hm, h.jobs], hs.trans h.settings⟩

theorem skip (hd : f.machine.done = true) (more : List (List Char)) :
    Passed settings (inputs ++ more) f := by
  obtain ⟨k, hk⟩ := h.machine
  exact ⟨⟨k, hk.skip hd more⟩, h.jobs, h.settings⟩

theorem feed (hd : f.machine.done = false) (text : List Char) :
    ∃ f', f.feed text = .ok f' ∧ Passed settings (inputs ++ [text]) f' := by
  obtain ⟨f', hf, hm, hset, hjobs⟩ := feed_machine hd text
  obtain ⟨k, hk⟩ := h.machine
  refine ⟨f', hf, ⟨k + 1, hm ▸ hk.feed hd text⟩, ?_, hset.trans h.settings⟩
  rw [hjobs, h.jobs, requests_of_taking hd, List.nil_append, hm, h.settings]

theorem feedAll (text : List Char) :
    ∃ f', f.feedAll text = .ok f' ∧ Passed settings (inputs ++ text.map ([·])) f' := by
  induction text generalizing f inputs with
  | nil => exact ⟨f, rfl, by rwa [List.map_nil, List.append_nil]⟩
  | cons c text ih =>
    unfold Form.feedAll
    cases hd : f.machine.done with
    | true => exact ⟨f, rfl, h.skip hd _⟩
    | false =>
      obtain ⟨f₁, h₁, hpassed⟩ := h.feed hd [c]
      obtain ⟨f₂, h₂, hpassed₂⟩ := ih hpassed
      rw [h₁]
      refine ⟨f₂, h₂, ?_⟩
      rwa [List.append_assoc] at hpassed₂

theorem mount : ∃ f', f.mount = .ok f' ∧ Passed settings (inputs ++ (settings.password.getD []).map ([·])) f' := by
  rw [mount_eq]
  obtain ⟨f', hf, hpassed⟩ := feedAll (f := f.opened) (h.same rfl rfl rfl) (f.settings.password.getD [])
  exact ⟨f', hf, h.settings ▸ hpassed⟩

theorem quit : Passed settings inputs f.quit := by
  have hl := f.left_quit
  have hset : f.quit.settings = f.settings := by
    obtain ⟨clipboard, log, heq⟩ := f.wipeSecrets_eq
    rw [Form.quit, heq]
  exact h.same hset hl.machine hl.jobs

theorem copyKey : Passed settings inputs f.copyKey := by
  obtain ⟨hset, hm, hj⟩ := f.entry_copyKey
  exact h.same hset hm hj

theorem pressed {f' : Form} {e : KeyEvent} (hp : Pressed f e f') :
    Passed settings (inputs ++ typedBy e) f' := by
  cases hp with
  | left he =>
    rw [typedBy_of_escape he, List.append_nil]
    exact h.quit
  | copied he hd => exact (h.skip hd _).copyKey
  | ignored he hi =>
    rcases hi with hd | hn
    · exact h.skip hd _
    · rwa [typedBy_eq he, hn, Option.toList_none, List.append_nil]
  | @typed text f' he hd htext hfeed =>
    obtain ⟨f₁, h₁, hpassed⟩ := h.feed hd text
    rw [hfeed] at h₁
    cases h₁
    rwa [typedBy_eq he, htext]

theorem pressAll (events : List KeyEvent) : ∃ f', f.pressAll events = .ok f' ∧
    Passed settings (inputs ++ events.flatMap typedBy) f' := by
  induction events generalizing f inputs with
  | nil => exact ⟨f, rfl, by rwa [List.flatMap_nil, List.append_nil]⟩
  | cons e events ih =>
    obtain ⟨taken, f₁, h₁, hp⟩ := f.press_ok e
    obtain ⟨f₂, h₂, hpassed₂⟩ := ih (h.pressed hp)
    unfold Form.pressAll
    rw [h₁]
    refine ⟨f₂, h₂, ?_⟩
    rwa [List.append_assoc, ← List.flatMap_cons] at hpassed₂

end Passed

theorem passed_new (settings : Settings) (rounds : Nat) (clipboard : Clipboard)
    (display : List Char → Except String Unit) (m : Memory) (s : Session) (now : Float) :
    Passed settings []
      { new settings rounds clipboard display with memory := m, session := s, clock := now } :=
  ⟨⟨0, .start⟩, rfl, rfl⟩

/-- **What is typed, and what is asked for.** A form is set up and mounted, and gets key strokes. None of this
fails. Its machine is the one that was given the password of the settings and then the printable keys and the
backspaces, up to the one that completes the password, and none of them came too late. The form has asked for
the key of the password, with the salt of the settings, if it is complete, and for nothing else; that
password is accepted. One more key stroke asks for a key just if the password is complete by it. -/
theorem keys_run (settings : Settings) (rounds : Nat) (clipboard : Clipboard)
    (display : List Char → Except String Unit) (m : Memory) (s : Session) (now : Float)
    (events : List KeyEvent) :
    let start : Form :=
      { new settings rounds clipboard display with memory := m, session := s, clock := now }
    let inputs := (settings.password.getD []).map ([·]) ++ events.flatMap typedBy
    ∃ f g, start.mount = .ok f ∧ f.pressAll events = .ok g ∧
      (∃ k ≤ inputs.length, g.machine = Machine.fed (inputs.take k) ∧
        (∀ j < k, (Machine.fed (inputs.take j)).done = false) ∧
        (k = inputs.length ∨ g.machine.stage = .allBlocksValid)) ∧
      (∀ password, g.machine.password? = some password → g.jobs = [⟨password, settings.salt⟩] ∧
        password.length = 55 ∧ ∃ ns, Password.shortValues password = .ok ns) ∧
      (g.machine.password? = none → g.jobs = []) ∧
      ∀ e, ∃ taken g', g.press e = .ok (taken, g') ∧
        (g'.jobs ≠ g.jobs ↔ g.machine.stage ≠ .allBlocksValid ∧ g'.machine.stage = .allBlocksValid) := by
  intro start inputs
  obtain ⟨f, hmount, hf⟩ := (passed_new settings rounds clipboard display m s now).mount
  obtain ⟨g, hpress, hg⟩ := hf.pressAll events
  obtain ⟨k, hk⟩ := hg.machine
  rw [List.nil_append] at hk
  refine ⟨f, g, hmount, hpress, ⟨k, hk.le, hk.machine, hk.taking, hk.last⟩, fun p hp => ⟨?_, ?_⟩,
    fun hn => ?_, fun e => ?_⟩
  · rw [hg.jobs, requests, hp]
    rfl
  · exact hk.accepted hp
  · rw [hg.jobs, requests, hn]
    rfl
  · obtain ⟨taken, g', hpress', hp⟩ := g.press_ok e
    have hg' := hg.pressed hp
    refine ⟨taken, g', hpress', ?_⟩
    by_cases hv : g.machine.stage = .allBlocksValid
    · have hd : g.machine.done = true := by
        rw [Machine.done, hv]
        rfl
      have hjobs : g'.jobs = g.jobs := by rw [hg'.jobs, hg.jobs, hp.machine_of_done hd]
      exact ⟨fun h => absurd hjobs h, fun h => absurd hv h.1⟩
    · rw [hg'.jobs, hg.jobs, requests_eq_nil_iff.2 hv, ne_eq, requests_eq_nil_iff, not_not]
      exact ⟨fun h => ⟨hv, h⟩, fun h => h.2⟩

/-- Most of a password is given up front. A key that is not printable, a digit, backspace, another digit, escape,
the last digit, and two keys that come too late. -/
theorem keys_run_mixed :
    let front := "720885-000000-000000-000000-000000-000000-000000-0000".toList
    let password := front ++ "11".toList
    let settings : Settings := ⟨List.replicate 16 7, some front, 20, false⟩
    let printed (c : Char) : KeyEvent := ⟨[c], some [c], true, fun _ => rfl⟩
    let control (name : String) : KeyEvent := ⟨name.toList, none, false, nofun⟩
    let events := [control "up", printed '5', ⟨"backspace".toList, some ['\x08'], false, nofun⟩, printed '1',
      control "escape", printed '1', printed 'c', printed '9']
    let typed := front.map ([·]) ++ [['5'], ['\x7f'], ['1'], ['1']]
    ∃ f g, (new settings 1 .working fun _ => .ok ()).mount = .ok f ∧ f.pressAll events = .ok g ∧
      g.machine = Machine.fed typed ∧ g.machine.password? = some password ∧
      g.jobs = [⟨password, List.replicate 16 7⟩] := by
  intro front password settings printed control events typed
  obtain ⟨f, g, hmount, hpress, ⟨k, -, hmachine, htaking, hlast⟩, hjobs, -, -⟩ :=
    keys_run settings 1 .working (fun _ => .ok ()) .empty .closed 0 events
  have hinputs : front.map ([·]) ++ events.flatMap typedBy = typed ++ [['c'], ['9']] := by decide
  rw [show settings.password.getD [] = front from rfl, hinputs] at hmachine htaking hlast
  have hdone : (Machine.fed typed).done = true := by decide +kernel
  have hopen : ∀ j < 57, (Machine.fed ((typed ++ [['c'], ['9']]).take j)).stage ≠ .allBlocksValid := by
    decide +kernel
  have hk : k = 57 := by
    rcases Nat.lt_trichotomy k 57 with hlt | heq | hgt
    · rw [hmachine] at hlast
      exact absurd (hlast.resolve_right (hopen k hlt)) (Nat.ne_of_lt (Nat.lt_trans hlt (by decide)))
    · exact heq
    · exact nomatch (htaking 57 hgt).symm.trans hdone
  have hfed : g.machine = Machine.fed typed := by
    rw [hmachine, hk]
    rfl
  have hpassword : g.machine.password? = some password := by
    rw [hfed]
    decide +kernel
  exact ⟨f, g, hmount, hpress, hfed, hpassword, (hjobs password hpassword).1⟩

end Form

end KeyRecovery
