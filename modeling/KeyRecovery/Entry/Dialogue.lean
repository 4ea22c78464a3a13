import KeyRecovery.Entry.Machine
import KeyRecovery.Entry.Source
import KeyRecovery.Log

/-!
# The entry dialogue

Characters are read from a source and given to the entry machine, and the line is drawn again
after every stroke that changes it, until the password is complete, the source ends, or reading
fails.

* `Dialogue.Event` : what the dialogue writes and logs;
* `Dialogue.redraw` : the events of one stroke;
* `Dialogue.turn`, `Dialogue.talk` : what one reading leads to, and the loop of readings;
* `Dialogue.run`, `Run.outcome` : the whole dialogue, which closes the source in the end, and what it comes to.
-/

namespace KeyRecovery.Dialogue

inductive Event
  | write (text : List Char)
  | log (r : Log.Record)
  deriving DecidableEq

inductive Failed
  /-- The input ended while the block at this place was being typed. -/
  | ended (place : Nat)
  | read (e : ReadError)
  | finished (e : AlreadyFinished)
  /-- The source could not bring its mode back when it was closed. -/
  | unclosed (e : ModeError)

def endedMessage (place : Nat) : String :=
  "Input ended before the recovery password was complete (block " ++ toString place ++ " of " ++
    toString Password.blockCount ++ ")"

/-- The prompt in front of the line; it starts at the left margin. -/
def standardPrompt : List Char := "\rEnter the recovery password: ".toList

def logger : String := "recoverykey.frontend.cli.prompt"

/-- The record of a rejected block. -/
def rejection (e : BlockError) : Log.Record := ⟨.error, logger, e.message⟩

/-- Whether a stroke that led from `before` to `after` leaves nothing to draw. -/
def unchanged (before after : Machine) : Bool :=
  after.blocks.length == before.blocks.length && after.cursor == before.cursor &&
    after.lastError.isNone

/-- The events of a stroke `c` that led from `before` to `after`. After an erasure two blanks cover
the erased digit and a hyphen; a rejection is reported on a row of its own. -/
def redraw (prompt : List Char) (c : Char) (before after : Machine) : List Event :=
  if unchanged before after then []
  else
    let line := after.line prompt
    (if Stroke.erasers.contains c then [.write (line ++ [' ', ' '])] else []) ++
      (match after.lastError with
        | some e => [.log (rejection e), .write "\r\nInvalid block.\r\n".toList]
        | none => []) ++
      [.write line] ++
      (if after.stage = .allBlocksValid then [.write "\r\nValid password, continuing.\r\n".toList]
        else [])

/-- What a reading leads to: a result, unless the dialogue goes on, what is seen, and the machine. -/
structure Turn where
  result : Option (Except Failed (List Char))
  events : List Event
  machine : Machine

/-- The entry is given up. -/
def giveUp (m : Machine) : Turn := ⟨some (.error (.ended m.abort.place)), [], m.abort⟩

/-- What the answer of a reading leads to. -/
def turn (prompt : List Char) (m : Machine) : Except ReadError (Option Char) → Turn
  | .error e => ⟨some (.error (.read e)), [], m⟩
  | .ok none => giveUp m
  | .ok (some c) =>
    if Stroke.aborters.contains c then giveUp m
    else match m.feed [c] with
      | .error e => ⟨some (.error (.finished e)), [], m⟩
      | .ok after => ⟨after.password?.map .ok, redraw prompt c m after, after⟩

/-- The end of reading: its result, what was seen, the machine and the source. -/
structure Talk (σ : Type) where
  result : Except Failed (List Char)
  events : List Event
  machine : Machine
  source : σ

variable {σ : Type} [Source σ]

/-- A dialogue goes on after a character alone, of which the source then has one less. -/
theorem pending_lt_of_turn {prompt : List Char} {m : Machine} {s : σ}
    (h : (turn prompt m (Source.read s).1).result = none) :
    Source.pending (Source.read s).2 < Source.pending s := by
  match hr : (Source.read s).1 with
  | .error e => simp [hr, turn] at h
  | .ok none => simp [hr, turn, giveUp] at h
  | .ok (some c) => exact Source.pending_read s c _ (Prod.ext hr rfl)

def talk (prompt : List Char) (m : Machine) (s : σ) : Talk σ :=
  let n := turn prompt m (Source.read s).1
  match h : n.result with
  | some result => ⟨result, n.events, n.machine, (Source.read s).2⟩
  | none =>
    have : Source.pending (Source.read s).2 < Source.pending s := pending_lt_of_turn h
    let rest := talk prompt n.machine (Source.read s).2
    { rest with events := n.events ++ rest.events }
termination_by Source.pending s

/-- The end of a dialogue: how reading ended, and what closing the source then answered. -/
structure Run (σ : Type) extends Talk σ where
  closing : Except ModeError Unit

/-- What a dialogue comes to. A source that cannot be closed properly hides how reading ended. -/
def Run.outcome (r : Run σ) : Except Failed (List Char) :=
  match r.closing with
  | .ok () => r.result
  | .error e => .error (.unclosed e)

def run (prompt : List Char) (s : σ) : Run σ :=
  let r := talk prompt .start s
  let (closing, source) := Source.close r.source
  { r with events := .write (Machine.start.line prompt) :: r.events, source := source, closing := closing }

def output (events : List Event) : List Char :=
  events.flatMap fun
    | .write text => text
    | .log _ => []

def records (threshold : Int) (events : List Event) : List Log.Record :=
  events.filterMap fun
    | .write _ => none
    | .log r => if r.keptAt threshold then some r else none

end KeyRecovery.Dialogue
