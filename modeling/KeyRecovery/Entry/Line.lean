import KeyRecovery.Entry.Machine

/-!
# A flat line of digits

The entry as one would do it on paper: a line of digits, of which every sixth one that completes a
bad block takes its block with it.

* `Line` : the digits, and whether more are taken;
* `Line.type`, `Line.abort`, `Line.perform` : the line after a text is typed, and after giving up;
* `Line.blocks`, `Line.rest` : the full groups of six, and what follows them;
* `Line.shown` : the digits with a hyphen behind each full group but the eighth.

The machine of `Entry.Machine` keeps the groups apart; a line does not.
-/

namespace KeyRecovery

/-- Whether a line takes more strokes. -/
inductive LineStatus
  | taking | done | aborted
  deriving DecidableEq, Repr

structure Line where
  digits : List Char
  status : LineStatus
  deriving DecidableEq

namespace Line

def start : Line := ⟨[], .taking⟩

/-- Whether the last six digits are a block that breaks a rule. -/
def endsBadly (digits : List Char) : Bool :=
  (Block.fault? (digits.drop (digits.length - Block.width))).isSome

/-- The line with one more digit. A bad block goes as soon as it is full. -/
def append (l : Line) (c : Char) : Line :=
  let t := l.digits ++ [c]
  if t.length % Block.width = 0 ∧ endsBadly t then
    { l with digits := t.take (t.length - Block.width) }
  else if t.length = Password.blockCount * Block.width then ⟨t, .done⟩
  else { l with digits := t }

def erase (l : Line) : Line := { l with digits := l.digits.dropLast }

/-- Types a text. Backspace and delete erase, a single digit from `0` to `9` is appended, and every
other text is ignored: hyphens, other characters, several at once, or none. -/
def type (l : Line) : List Char → Line
  | [c] =>
    if c = '\x08' ∨ c = '\x7f' then l.erase
    else if '0' ≤ c ∧ c ≤ '9' then l.append c
    else l
  | _ => l

/-- Gives up: the digits behind the last full group are dropped. -/
def abort (l : Line) : Line :=
  ⟨l.digits.take (l.digits.length - l.digits.length % Block.width), .aborted⟩

/-- Performs an action; a line that takes no more strokes refuses them. -/
def perform (l : Line) : Machine.Action → Option Line
  | .feed text => if l.status = .taking then some (l.type text) else none
  | .abort => some l.abort

def blocks (l : Line) : List (List Char) :=
  (List.range (l.digits.length / Block.width)).map fun i =>
    (l.digits.drop (i * Block.width)).take Block.width

def rest (l : Line) : List Char := l.digits.drop (l.digits.length / Block.width * Block.width)

/-- A full group as it is shown. -/
def shownGroup (i : Nat) (group : List Char) : List Char :=
  if i + 1 = Password.blockCount then group else group ++ [Password.separator]

def shown (l : Line) : List Char :=
  (l.blocks.mapIdx shownGroup).flatten ++ l.rest

end Line

end KeyRecovery
