/-!
# The clipboard

* `Clipboard` : the texts put on a clipboard so far, and what it refuses;
* `Clipboard.put`, `Clipboard.clear` : a new text, and the empty text in its place.
-/

namespace KeyRecovery

/-- A clipboard with all texts it was given, the latest last. It may refuse texts, or be unable to
take the empty one. -/
structure Clipboard where
  copies : List (List Char)
  refusesText : Bool
  refusesEmpty : Bool
  deriving DecidableEq

/-- There is no way to reach the clipboard. -/
structure ClipboardError where
  deriving DecidableEq

def ClipboardError.message (_ : ClipboardError) : String := "no clipboard mechanism"

namespace Clipboard

/-- A clipboard that takes everything. -/
def working : Clipboard := ⟨[], false, false⟩

def put (c : Clipboard) (text : List Char) : Except ClipboardError Clipboard :=
  if (if text.isEmpty then c.refusesEmpty else c.refusesText) then .error ⟨⟩
  else .ok { c with copies := c.copies ++ [text] }

def clear (c : Clipboard) : Except ClipboardError Clipboard := c.put []

end Clipboard

end KeyRecovery
