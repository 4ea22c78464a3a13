import KeyRecovery.Markup.Style
import KeyRecovery.Markup.Token
import KeyRecovery.Text.Quoted

/-!
# Closing tags

* `label` : what identifies a tag, so that a closing tag finds the one it closes;
* `Fault` : why text cannot be shown;
* `Markup.check` : each closing tag closes the last tag with its label, or the last tag of all if its label is
  empty. A tag that holds anything out of place is plain text, unless it is a closing tag.
-/

namespace KeyRecovery.Markup

inductive Fault
  /-- There is no tag that a closing tag closes. -/
  | unmatched (tag : List Char)
  /-- There is no tag at all to close. -/
  | nothingToClose
  /-- There is something in a value that cannot stand there: the rest of its line. -/
  | misplaced (rest : List Char)
  deriving DecidableEq

def Fault.message : Fault → String
  | unmatched tag =>
    "closing tag '[/" ++ String.ofList tag ++ "]' does not match any open tag"
  | nothingToClose => "auto closing tag ('[/]') has nothing to close"
  | misplaced rest =>
    "Expected markup value (found " ++ Text.quoted (rest.takeWhile (· ≠ ';')) ++ ")."

/-! ## Labels -/

/-- What identifies a tag: the text of the style that it describes, whatever its order and spelling, or what
the tag says if that is no style. -/
def label (said : List Char) : List Char :=
  match Style.ofText? (Text.trim said) with
  | some style => style.text
  | none => Text.trim said

/-- What tokens say. -/
def textOf (tokens : List Token) : List Char := tokens.flatMap Token.text

/-! ## Matching -/

/-- Where a check has got to: the labels of open tags, the last one first, and the tag being read: whether
it is a closing one, and its tokens, the last one first. -/
structure Reader where
  labels : List (List Char)
  tag : Option (Bool × List Token)

namespace Reader

/-- A tag is read to its end. -/
def openTag (r : Reader) (tokens : List Token) : Reader :=
  let isStray : Token → Bool := fun
    | .stray _ => true
    | _ => false
  if tokens.any isStray || (textOf tokens).all Text.isBlank then ⟨r.labels, none⟩
  else ⟨label (textOf tokens) :: r.labels, none⟩

/-- A closing tag is read to its end. -/
def closeTag (r : Reader) (tokens : List Token) : Except Fault Reader :=
  let name := label (textOf tokens)
  if name.isEmpty then
    match r.labels with
    | [] => .error .nothingToClose
    | _ :: rest => .ok ⟨rest, none⟩
  else if r.labels.contains name then .ok ⟨r.labels.erase name, none⟩
  else .error (.unmatched (Text.trim (textOf tokens)))

/-- Reads a token. -/
def step (r : Reader) (t : Token) : Except Fault Reader :=
  match t, r.tag with
  | .misplaced rest, _ => .error (.misplaced rest)
  | .finish, some (false, tokens) => .ok (r.openTag tokens.reverse)
  | .finish, some (true, tokens) => r.closeTag tokens.reverse
  | .opening, none => .ok ⟨r.labels, some (false, [])⟩
  | .closing, none => .ok ⟨r.labels, some (true, [])⟩
  | t, some (closes, tokens) => .ok ⟨r.labels, some (closes, t :: tokens)⟩
  | _, none => .ok r

/-- The text ends. A closing tag ends with it. -/
def done (r : Reader) : Except Fault Unit :=
  match r.tag with
  | some (true, tokens) => (r.closeTag tokens.reverse).map fun _ => ()
  | _ => .ok ()

end Reader

def check (s : List Char) : Except Fault Unit := do
  let r ← (Token.scan s).foldlM Reader.step ⟨[], none⟩
  r.done

end KeyRecovery.Markup
