import KeyRecovery.Clipboard
import KeyRecovery.Datum
import KeyRecovery.Entry.Machine
import KeyRecovery.Session
import KeyRecovery.Settings.Basic

/-!
# The entry form

A full-screen form around the entry machine. The keys typed go to the machine; a complete password
starts a derivation elsewhere, whose key is handed over in two steps: it first lies in the form as
pending, and is taken into the session when the end of the derivation is noticed. Leaving the form
wipes both.

* `Form` : everything the form holds;
* `Form.mount`, `Form.feed`, `Form.press` : showing it, and input;
* `Job`, `Form.compute`, `Form.deliver` : a derivation, and the delivery of its key;
* `Verdict` : what the report of a derivation, which may be any datum, comes to;
* `Form.settle`, `Form.workerChanged` : the end of a derivation is noticed;
* `Form.copyKey`, `Form.quit`, `Form.unmount` : copying the key, and leaving.
-/

namespace KeyRecovery

structure Screen where
  prompt : List Char
  status : String
  key : String

structure Job where
  password : List Char
  salt : List UInt8
  deriving DecidableEq

/-- How a derivation ended. -/
structure JobReport where
  success : Bool
  error : Option String
  deriving DecidableEq

def JobReport.datum (r : JobReport) : Datum :=
  .table (("success".toList, .flag r.success) ::
    r.error.toList.map fun e => ("error".toList, .text e.toList))

inductive Verdict
  | derived
  | failed (reason : String)
  deriving DecidableEq

/-- Why the end of a derivation cannot be dealt with. -/
inductive SettleError
  | session (e : SessionError)
  | notReport (kind : String)
  /-- The reason of a failure cannot be shown on the screen. -/
  | display (fault : String)

def SettleError.message : SettleError → String
  | .session e => e.message
  | .notReport kind => "'" ++ kind ++ "' object has no attribute 'get'"
  | .display fault => fault

/-- The verdict of a datum. One that counts as false reports a failure; a table reports a success if it
says so, else the reason it gives; nothing else is a report. -/
def Verdict.of? (d : Datum) : Except SettleError Verdict :=
  if !d.holds then .ok (.failed "derivation failed")
  else match d with
    | .table _ =>
      if (d.find? "success").any Datum.holds then .ok .derived
      else .ok (.failed (((d.find? "error").map fun e => String.ofList e.shown).getD
        "derivation failed"))
    | d => .error (.notReport d.kind)

inductive NoticeKind
  | information | error
  deriving DecidableEq, Repr

structure Notice where
  kind : NoticeKind
  text : String
  deriving DecidableEq

/-- A key stroke: the name of the key, the character it makes, if any, and whether that is printable. -/
structure KeyEvent where
  name : List Char
  character : Option (List Char)
  printable : Bool
  isSome_of_printable : printable = true → character.isSome = true

/-- Everything the form holds. Without a screen it has not been mounted. The toolkit beneath may find fault with
a text that it is to display. -/
structure Form where
  settings : Settings
  machine : Machine
  session : Session
  memory : Memory
  clock : Float
  rounds : Nat
  display : List Char → Except String Unit
  screen : Option Screen
  status : String
  pending : Option BufferId
  copied : Bool
  quitting : Bool
  jobs : List Job
  notices : List Notice
  exits : Nat
  clipboard : Clipboard
  log : List Log.Record

namespace Form

def logger : String := "recoverykey.frontend.cli.app"

def new (settings : Settings) (rounds : Nat) (clipboard : Clipboard)
    (display : List Char → Except String Unit) : Form where
  settings := settings
  machine := .start
  session := .closed
  memory := .empty
  clock := 0
  rounds := rounds
  display := display
  screen := none
  status := ""
  pending := none
  copied := false
  quitting := false
  jobs := []
  notices := []
  exits := 0
  clipboard := clipboard
  log := []

def setStatus (f : Form) (text : String) : Form :=
  { f with status := text, screen := f.screen.map fun s => { s with status := text } }

/-- The groups of six places that are still empty, behind the block being typed. -/
def emptyGroups (n : Nat) : List Char := (List.replicate n "-______".toList).flatten

/-- The prompt line: what was typed, and an underscore for each digit to come. -/
def promptLine (m : Machine) : List Char :=
  m.line [] ++ (if m.done then [] else List.replicate (Block.width - m.cursor) '_') ++
    emptyGroups (Password.blockCount - m.blocks.length - 1)

def refresh (f : Form) : Form :=
  { f with screen := f.screen.map fun s => { s with prompt := promptLine f.machine } }

def addRecord (f : Form) (severity : Log.Severity) (message : String) : Form :=
  { f with log := f.log ++
      [⟨severity, logger, message⟩].filter (Log.Record.keptAt f.settings.level) }

def notify (f : Form) (kind : NoticeKind) (text : String) : Form :=
  { f with notices := f.notices ++ [⟨kind, text⟩] }

/-! ## Input -/

/-- The status after a stroke that took the machine to its present state. -/
def reportStroke (f : Form) : Form :=
  match f.machine.lastError with
  | some e => (f.addRecord .error e.message).setStatus ("Invalid block: " ++ e.message)
  | none =>
    match f.machine.stage with
    | .blockComplete =>
      f.setStatus ("Block " ++ toString f.machine.blocks.length ++ " ok, block " ++
        toString f.machine.place ++ " of " ++ toString Password.blockCount)
    | .allBlocksValid => f.setStatus "Valid password, deriving the intermediate key..."
    | .awaitingDigit | .aborted => f

/-- Asks for a derivation once the password is complete. -/
def requestKey (f : Form) : Form :=
  match f.machine.password? with
  | some password => { f with jobs := f.jobs ++ [⟨password, f.settings.salt⟩] }
  | none => f

def feed (f : Form) (text : List Char) : Except AlreadyFinished Form :=
  match f.machine.feed text with
  | .error e => .error e
  | .ok m => .ok ({ f with machine := m }.reportStroke.refresh.requestKey)

/-- Gives characters to the machine until it is done. -/
def feedAll (f : Form) : List Char → Except AlreadyFinished Form
  | [] => .ok f
  | c :: rest =>
    if f.machine.done then .ok f
    else match f.feed [c] with
      | .error e => .error e
      | .ok f => f.feedAll rest

/-- Shows the form, and types a password that the settings hold. -/
def mount (f : Form) : Except AlreadyFinished Form :=
  let f := { f with screen := some ⟨[], "", ""⟩ }
  let f := f.refresh.setStatus ("Block 1 of " ++ toString Password.blockCount)
  match f.settings.password with
  | some password => f.feedAll password
  | none => .ok f

/-! ## The key -/

def compute (f : Form) (job : Job) : Except (DeriveError Empty) BufferId × Form :=
  let (salt, m) := f.memory.allocAs true job.salt
  let d := derive Sha256.hasher f.rounds f.settings.level job.password (.buffer salt) m ()
  (d.result, { f with memory := d.memory, log := f.log ++ d.log })

/-- Delivers a derived key: it becomes the pending one, unless the form is being left, in which case
it is wiped. -/
def deliver (f : Form) (key : BufferId) : JobReport × Form :=
  if f.quitting then
    (⟨false, some "quit before the key was derived"⟩, { f with memory := f.memory.zero key })
  else (⟨true, none⟩, { f with pending := some key })

/-- Runs a job from start to end. A rejected password is reported; other failures are not handled. -/
def work (f : Form) (job : Job) : Except (DeriveError Empty) JobReport × Form :=
  match f.compute job with
  | (.ok key, f) =>
    let (report, f) := f.deliver key
    (.ok report, f)
  | (.error (.password e), f) => (.ok ⟨false, some e.failure.message⟩, f)
  | (.error e, f) => (.error e, f)

/-- Runs the oldest job asked for, if there is one. -/
def workNext (f : Form) : Option (Except (DeriveError Empty) JobReport) × Form :=
  match f.jobs with
  | [] => (none, f)
  | job :: rest =>
    let (result, f) := { f with jobs := rest }.work job
    (some result, f)

def sessionKey (f : Form) : Except SessionError BufferId × Form :=
  let (result, m, s) := f.session.key f.clock f.memory
  (result, { f with memory := m, session := s })

def copyKey (f : Form) : Form :=
  match f.sessionKey with
  | (.error e, f) => f.notify .error e.message
  | (.ok key, f) =>
    match f.clipboard.put (Hex.dump [] (f.memory.bytes key)) with
    | .ok c =>
      let f := { f with clipboard := c, copied := true }
      f.notify .information "Key copied to clipboard!"
    | .error _ => f.notify .error "Could not copy to clipboard"

/-- Shows a key that was taken into the session, and copies it if the settings ask for it. -/
def showKey (f : Form) (key : BufferId) : Form :=
  let text := "Intermediate recovery key:\n" ++ String.ofList (Key.text (f.memory.bytes key))
  let f := { f with screen := f.screen.map fun (s : Screen) => { s with key := text } }
  let f := f.setStatus "Key derived. Press c to copy it, esc to quit."
  if f.settings.copy then f.copyKey else f

/-- Takes a pending key into the session, reads it back and shows it. -/
def adopt (f : Form) (key : BufferId) : Except SessionError Unit × Form :=
  let (result, m, s) := f.session.unlock f.clock (.buffer key) Session.standardTtl f.memory
  let f := { f with pending := none, memory := m, session := s }
  match result with
  | .error e => (.error e, f)
  | .ok _ =>
    match f.sessionKey with
    | (.error e, f) => (.error e, f)
    | (.ok held, f) => (.ok (), f.showKey held)

/-- Logs and shows why no key was derived. A reason that the toolkit finds fault with is kept as the status, but
cannot be shown on a screen. -/
def reportFailure (f : Form) (reason : String) : Except SettleError Unit × Form :=
  let status := "Error: " ++ reason
  let f := f.addRecord .error ("Error deriving the intermediate key: " ++ reason)
  let f := f.setStatus status
  if f.screen.isSome then ((f.display status.toList).mapError .display, f) else (.ok (), f)

/-- The end of a derivation is noticed, with its report. Only a success moves the pending key; a second
notice of it finds nothing to move. -/
def settle (f : Form) (report : Datum) : Except SettleError Unit × Form :=
  match Verdict.of? report with
  | .error e => (.error e, f)
  | .ok (.failed reason) => f.reportFailure reason
  | .ok .derived =>
    match f.pending with
    | some key =>
      let (result, f) := f.adopt key
      (result.mapError .session, f)
    | none => (.ok (), f)

def deriveWorker : String := "derive_key_worker"

def workerChanged (f : Form) (finished : Bool) (name : String) (report : Datum) :
    Except SettleError Unit × Form :=
  if finished && name == deriveWorker then f.settle report else (.ok (), f)

/-! ## Leaving -/

/-- Wipes the pending key and the session's, and clears the clipboard if the key was copied. -/
def wipeSecrets (f : Form) : Form :=
  let m := match f.pending with
    | some key => f.memory.zero key
    | none => f.memory
  let (m, s) := f.session.lock m
  let f := { f with quitting := true, pending := none, memory := m, session := s }
  if f.copied then
    let f := { f with copied := false }
    match f.clipboard.clear with
    | .ok c => { f with clipboard := c }
    | .error _ => f.addRecord .warning "Could not clear the clipboard"
  else f

def quit (f : Form) : Form :=
  let f := f.wipeSecrets
  { f with exits := f.exits + 1 }

def unmount (f : Form) : Form := f.wipeSecrets

/-! ## Keys -/

/-- What a key stroke is to the machine: the erasing character, a printable character, or nothing. -/
def strokeOf (e : KeyEvent) : Option (List Char) :=
  if e.name = "backspace".toList then some ['\x7f']
  else if e.printable then e.character
  else none

/-- Handles a key stroke, and tells whether it was taken. Escape leaves. Once the machine is done `c`
copies the key and other keys do nothing; before that, printable keys and backspace are typed. -/
def press (f : Form) (e : KeyEvent) : Except AlreadyFinished (Bool × Form) :=
  if e.name = "escape".toList then .ok (true, f.quit)
  else if f.machine.done then
    if e.name = ['c'] then .ok (true, f.copyKey) else .ok (false, f)
  else match strokeOf e with
    | some text => (f.feed text).map fun f => (true, f)
    | none => .ok (false, f)

end Form

end KeyRecovery
