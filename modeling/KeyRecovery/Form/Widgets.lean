import KeyRecovery.Form.Basic

/-!
# Widgets of the form

* `Widget` : a piece of text on the screen, with a name if it changes and a class if it does not;
* `Form.widgets` : all of them, from top to bottom.
-/

namespace KeyRecovery

structure Widget where
  name : Option String
  classes : List String
  text : String

def Form.widgets (f : Form) : List Widget :=
  match f.screen with
  | none => []
  | some s =>
    [⟨none, ["title"], "Enter the recovery password"⟩,
      ⟨some "prompt", [], String.ofList s.prompt⟩,
      ⟨some "status", [], s.status⟩,
      ⟨some "key", [], s.key⟩,
      ⟨none, ["help"], "digits: type  backspace: erase  c: copy key  esc: quit"⟩]

end KeyRecovery
