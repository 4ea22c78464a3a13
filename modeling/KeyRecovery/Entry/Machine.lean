import KeyRecovery.Password.Basic

/-!
# The entry machine

A password is entered one stroke at a time. Digits fill the current block; a full block is checked
at once and either committed or dropped. Erasing takes back the last digit, across block borders.
All other strokes are ignored.

* `Stroke`, `Stroke.ofText` : what a piece of input means;
* `Stage` : where the entry stands;
* `Machine` : the committed blocks, the digits in progress, the stage, and the last rejection;
* `Machine.feed`, `Machine.abort` : the machine after a stroke, and after giving up;
* `Machine.line`, `Machine.password?` : what is shown, and what comes out in the end.
-/

namespace KeyRecovery

inductive Stroke
  | digit (c : Char)
  /-- Take back one digit. -/
  | erase
  | other
  deriving DecidableEq

namespace Stroke

/-- The characters that erase: backspace and delete. -/
def erasers : List Char := ['\x08', '\x7f']

/-- The characters that end the entry: end of text and end of transmission. -/
def aborters : List Char := ['\x03', '\x04']

def ofChar (c : Char) : Stroke :=
  if erasers.contains c then .erase else if c.isDigit then .digit c else .other

def ofText : List Char → Stroke
  | [c] => ofChar c
  | _ => .other

end Stroke

inductive Stage
  | awaitingDigit
  /-- A block was just committed, and more are to come. -/
  | blockComplete
  | allBlocksValid
  | aborted
  deriving DecidableEq, Repr

namespace Stage

def all : List Stage := [awaitingDigit, blockComplete, allBlocksValid, aborted]

def label : Stage → String
  | awaitingDigit => "awaiting_digit"
  | blockComplete => "block_complete"
  | allBlocksValid => "all_blocks_valid"
  | aborted => "aborted"

/-- Whether no more strokes are taken. -/
def isFinal : Stage → Bool
  | allBlocksValid | aborted => true
  | awaitingDigit | blockComplete => false

end Stage

structure Machine where
  blocks : List (List Char)
  digits : List Char
  stage : Stage
  lastError : Option BlockError
  deriving DecidableEq

/-- A stroke was given to a machine that had already ended at this stage. -/
structure AlreadyFinished where
  stage : Stage

def AlreadyFinished.message (e : AlreadyFinished) : String :=
  "prompt already finished (" ++ e.stage.label ++ ")"

namespace Machine

def start : Machine := ⟨[], [], .awaitingDigit, none⟩

/-- The place, counted from one, of the block being typed. -/
def place (m : Machine) : Nat := m.blocks.length + 1

/-- Digits in progress. -/
def cursor (m : Machine) : Nat := m.digits.length

def done (m : Machine) : Bool := m.stage.isFinal

/-- The committed blocks as shown, each but the eighth followed by a hyphen. -/
def committed (m : Machine) : List Char :=
  Password.join m.blocks ++
    if m.blocks.isEmpty || Password.blockCount ≤ m.blocks.length then [] else [Password.separator]

def line (prompt : List Char) (m : Machine) : List Char := prompt ++ m.committed ++ m.digits

def password? (m : Machine) : Option (List Char) :=
  if m.stage = .allBlocksValid then some (Password.join m.blocks) else none

/-- Takes back one digit; a committed block is reopened with its first five. -/
def eraseDigit (m : Machine) : Machine :=
  if m.digits.isEmpty then
    match m.blocks.getLast? with
    | none => m
    | some last => { m with blocks := m.blocks.dropLast, digits := last.take (Block.width - 1) }
  else { m with digits := m.digits.dropLast }

/-- Commits or drops a full block. -/
def closeBlock (m : Machine) : Machine :=
  match Block.shortValue m.place m.digits with
  | .error e => { m with digits := [], stage := .awaitingDigit, lastError := some e }
  | .ok _ =>
    let blocks := m.blocks ++ [m.digits]
    let stage := if Password.blockCount ≤ blocks.length then Stage.allBlocksValid else .blockComplete
    { m with blocks := blocks, digits := [], stage := stage }

/-- The machine after a stroke, as long as it takes strokes. -/
def press (m : Machine) : Stroke → Machine
  | .erase => { m.eraseDigit with stage := .awaitingDigit, lastError := none }
  | .other =>
    { m with stage := if m.stage = .blockComplete then .awaitingDigit else m.stage
             lastError := none }
  | .digit c =>
    let m := { m with digits := m.digits ++ [c], stage := .awaitingDigit, lastError := none }
    if Block.width ≤ m.digits.length then m.closeBlock else m

def feed (m : Machine) (text : List Char) : Except AlreadyFinished Machine :=
  if m.done then .error ⟨m.stage⟩ else .ok (m.press (.ofText text))

/-- Gives the entry up; the digits in progress are dropped. -/
def abort (m : Machine) : Machine := { m with digits := [], stage := .aborted }

/-- What can be done to a machine. -/
inductive Action
  | feed (text : List Char)
  | abort

/-- Performs an action. A refused stroke leaves the machine as it is. -/
def perform (m : Machine) : Action → Except AlreadyFinished Stage × Machine
  | .feed text =>
    match m.feed text with
    | .ok m => (.ok m.stage, m)
    | .error e => (.error e, m)
  | .abort => (.ok .aborted, m.abort)

end Machine

end KeyRecovery
