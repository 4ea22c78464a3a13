import KeyRecovery.Proofs.Entry.Decision
import KeyRecovery.Proofs.Form.Steps

/-!
# What the form types

* `Form.requests m salt` : the derivation that machine `m` asks for, if its password is complete;
* `feed_machine` : a piece of input given to a form whose machine takes strokes;
* `feedAll_machine`, `mount_machine` : a form gives its machine the characters of a text, and of the password
  that the settings hold, up to the one that ends the entry, and asks for the key of the password.
-/

namespace KeyRecovery.Form

def requests (m : Machine) (salt : List UInt8) : List Job :=
  m.password?.toList.map fun password => ⟨password, salt⟩

theorem requests_of_taking {m : Machine} (hd : m.done = false) (salt : List UInt8) :
    requests m salt = [] := by
  rw [requests, Machine.password?_eq_none_iff.2 (Machine.done_eq_false_iff.1 hd).1]
  rfl

theorem feed_machine {f : Form} (hd : f.machine.done = false) (text : List Char) :
    ∃ f', f.feed text = .ok f' ∧ f'.machine = f.machine.press (.ofText text) ∧
      f'.settings = f.settings ∧
      f'.jobs = f.jobs ++ requests (f.machine.press (.ofText text)) f.settings.salt := by
  let m := f.machine.press (.ofText text)
  have hm : f.machine.feed text = .ok m := Machine.feed_eq_ok_iff.2 ⟨hd, rfl⟩
  obtain ⟨status, screen, log, hreport⟩ := reportStroke_eq { f with machine := m }
  unfold feed
  rw [hm]
  refine ⟨_, rfl, ?_⟩
  rw [hreport]
  simp only [requestKey, refresh, requests]
  cases m.password? with
  | none => exact ⟨rfl, rfl, (List.append_nil f.jobs).symm⟩
  | some p => exact ⟨rfl, rfl, rfl⟩

/-- A form that takes strokes gives its machine a whole text, and asks for a key if it completes the
password. -/
theorem feedAll_machine {f : Form} (hd : f.machine.done = false) (text : List Char) :
    ∃ f', f.feedAll text = .ok f' ∧ f'.machine = f.machine.typed text ∧
      f'.jobs = f.jobs ++ requests (f.machine.typed text) f.settings.salt := by
  induction text generalizing f with
  | nil => exact ⟨f, rfl, rfl, by rw [Machine.typed_nil, requests_of_taking hd, List.append_nil]⟩
  | cons c text ih =>
    obtain ⟨f₁, h₁, hm, hset, hjobs⟩ := feed_machine hd [c]
    rw [show Stroke.ofText [c] = .ofChar c from rfl, ← Machine.stroke_eq hd] at hm hjobs
    unfold feedAll
    rw [hd, h₁, Machine.typed_cons, ← hm]
    cases hd₁ : f₁.machine.done with
    | true =>
      have hstop : f₁.feedAll text = .ok f₁ := by
        cases text with
        | nil => rfl
        | cons a text => rw [feedAll, if_pos hd₁]
      rw [Machine.typed_of_done hd₁]
      exact ⟨f₁, hstop, rfl, by rw [hjobs, hm]⟩
    | false =>
      obtain ⟨f₂, h₂, hm₂, hjobs₂⟩ := ih hd₁
      rw [← hm, requests_of_taking hd₁, List.append_nil] at hjobs
      exact ⟨f₂, h₂, hm₂, by rw [hjobs₂, hjobs, hset]⟩

theorem mount_machine {f : Form} (hd : f.machine.done = false) :
    ∃ f', f.mount = .ok f' ∧ f'.machine = f.machine.typed (f.settings.password.getD []) ∧
      f'.jobs = f.jobs ++ requests (f.machine.typed (f.settings.password.getD [])) f.settings.salt := by
  rw [mount_eq]
  exact feedAll_machine (f := f.opened) hd (f.settings.password.getD [])

end KeyRecovery.Form
