import KeyRecovery.Entry.Dialogue

/-!
# A row of a terminal

* `Row` : the cells of a row without end, and the cursor;
* `Row.put`, `Row.write` : what a character, and a text, does to the row. A carriage return goes to the
  left margin, a line feed to a new blank row, and any other character covers the cell at the cursor;
* `Row.draw` : what the events of a dialogue do to it.
-/

namespace KeyRecovery

structure Row where
  cell : Nat → Char
  cursor : Nat

namespace Row

def blank : Row := ⟨fun _ => ' ', 0⟩

def put (r : Row) (c : Char) : Row :=
  if c = '\r' then { r with cursor := 0 }
  else if c = '\n' then ⟨fun _ => ' ', r.cursor⟩
  else ⟨fun i => if i = r.cursor then c else r.cell i, r.cursor + 1⟩

def write (r : Row) (text : List Char) : Row := text.foldl put r

def draw (r : Row) (events : List Dialogue.Event) : Row := r.write (Dialogue.output events)

/-- Whether a row holds a text from its margin on and blanks behind, with the cursor behind the text. -/
def Holds (r : Row) (text : List Char) : Prop :=
  (∀ i, r.cell i = text.getD i ' ') ∧ r.cursor = text.length

theorem write_append (r : Row) (s t : List Char) : r.write (s ++ t) = (r.write s).write t :=
  List.foldl_append

end Row

end KeyRecovery
