import KeyRecovery.Clipboard
import KeyRecovery.Command.Options
import KeyRecovery.Entry.Dialogue
import KeyRecovery.Entry.Terminal
import KeyRecovery.Key.Derivation
import KeyRecovery.Text.Utf8

/-!
# The command

* `Command.World` : what surrounds a run: variables, files, standard input, clipboard;
* `Command.Report` : what a run leaves behind: its outcome, both outputs, the clipboard, the forms it
  opened, the log level it set, and the memory with the key's buffer;
* `Command.prepare`, `Command.ask`, `Command.conclude` : the parts of a run: options and settings,
  the password, the key;
* `Command.execute` : a run on a command line. The key is written to standard output; prompts and log
  lines go to standard error.
-/

namespace KeyRecovery.Command

inductive Input
  | text (s : List Char)
  | interrupted
  | broken
  /-- A device, read byte by byte, or as a whole in UTF-8. -/
  | device (d : Device Mode)

structure World where
  environment : Environment
  files : FileSystem
  input : Input
  clipboard : Clipboard
  rounds : Nat
  stamp : String

/-- A failure that a run does not handle. -/
inductive Crash
  /-- Settings could not be resolved in a way that is not reported as a usage error. -/
  | settings (e : SettingsError)
  /-- Standard input has no descriptor to read keystrokes from. -/
  | noDescriptor
  /-- Reading standard input failed. -/
  | broken
  /-- Standard input is no text. -/
  | notText (e : Text.Utf8.Fault)
  /-- A read in the dialogue failed outside of its protocol, or came too late, or the mode of the terminal
  could not be brought back. -/
  | dialogue (e : Dialogue.Failed)
  /-- The packed password or the salt did not have its length. -/
  | derive (e : DeriveError Empty)
  /-- The clipboard is out of reach. -/
  | clipboard (e : ClipboardError)

inductive Outcome
  | returned (code : Nat)
  | exited (code : Nat)
  | crashed (e : Crash)

structure Report where
  outcome : Outcome
  out : String
  err : String
  clipboard : Clipboard
  forms : List Settings
  level : Int
  memory : Memory
  key : Option BufferId

def logger : String := "recoverykey.frontend.cli.command"

def lines (stamp : String) (level : Int) (records : List Log.Record) : String :=
  String.join ((records.filter (Log.Record.keptAt level)).map (Log.Record.line stamp))

/-- The events of a dialogue as they come out on standard error. -/
def transcript (stamp : String) (level : Int) (events : List Dialogue.Event) : String :=
  String.join (events.map fun
    | .write text => String.ofList text
    | .log r => lines stamp level [r])

inductive Asked
  | password (s : List Char)
  | failed (message : String)
  | interrupted
  | crashed (e : Crash)

/-- The end of asking as what a dialogue comes to shows it. -/
def asked : Except Dialogue.Failed (List Char) → Asked
  | .ok password => .password password
  | .error (.ended place) => .failed (Dialogue.endedMessage place)
  | .error (.read (.stream message)) => .failed message
  | .error e => .crashed (.dialogue e)

def askOn {σ : Type} [Source σ] (s : σ) : Asked × List Dialogue.Event :=
  let r := Dialogue.run Dialogue.standardPrompt s
  (asked r.outcome, r.events)

/-- The password that is read from standard input, as a text or key by key. -/
def askInput (fromStdin : Bool) (input : Input) : Asked × List Dialogue.Event :=
  match fromStdin, input with
  | true, .text s => askOn (Script.ofTexts [s])
  | true, .interrupted => (.interrupted, [])
  | true, .broken => (.crashed .broken, [])
  | true, .device d =>
    match Text.Utf8.decode d.contents with
    | .ok s => askOn (Script.ofTexts [s])
    | .error e => (.crashed (.notText e), [])
  | false, .device d => askOn (Terminal.on d).opened
  | false, _ => (.crashed .noDescriptor, [])

def ask (settings : Settings) (fromStdin : Bool) (input : Input) : Asked × List Dialogue.Event :=
  match settings.password with
  | some (c :: rest) => (.password (c :: rest), [])
  | none | some [] => askInput fromStdin input

/-- What handing out a key writes, and the clipboard afterwards. -/
structure Handed where
  out : String
  err : String
  clipboard : Clipboard
  failure : Option ClipboardError

/-- Shows a key, and copies it if the settings ask for it. -/
def handOut (settings : Settings) (stamp : String) (clipboard : Clipboard) (key : List UInt8) :
    Handed :=
  let out := String.ofList (Key.text key) ++ "\n"
  let shown := lines stamp settings.level [Key.record key]
  if settings.copy then
    match clipboard.put (Hex.dump [] key) with
    | .error e => ⟨out, shown, clipboard, some e⟩
    | .ok clipboard =>
      let note := ⟨.info, logger, "Intermediate key copied to clipboard"⟩
      ⟨out, shown ++ lines stamp settings.level [note], clipboard, none⟩
  else ⟨out, shown, clipboard, none⟩

def failureRecord (message : String) : Log.Record :=
  ⟨.error, logger, "Error handling the recovery password: " ++ message⟩

/-- The end of a run with settings, once a password was asked for. `said` is what came out on standard
error so far. -/
def conclude (settings : Settings) (w : World) (said : String) (ending : Asked) : Report :=
  let stop (outcome : Outcome) (more : String) : Report :=
    ⟨outcome, "", said ++ more, w.clipboard, [], settings.level, .empty, none⟩
  match ending with
  | .failed message =>
    stop (.returned 1) (lines w.stamp settings.level [failureRecord message])
  | .interrupted => stop (.returned 130) "\nAborted.\n"
  | .crashed e => stop (.crashed e) ""
  | .password password =>
    let (salt, m) := Memory.empty.allocAs true settings.salt
    let d := deriveAndWipe Sha256.hasher w.rounds settings.level password (.buffer salt) m ()
      fun key m => (handOut settings w.stamp w.clipboard (m.bytes key), m)
    let said := said ++ lines w.stamp settings.level d.log
    match d.result with
    | .error (.password e) =>
      ⟨.returned 1, "",
        said ++ lines w.stamp settings.level [failureRecord e.failure.message], w.clipboard, [],
        settings.level, d.memory, d.key⟩
    | .error e =>
      ⟨.crashed (.derive e), "", said, w.clipboard, [], settings.level, d.memory, d.key⟩
    | .ok handed =>
      let outcome := match handed.failure with
        | some e => Outcome.crashed (.clipboard e)
        | none => .returned 0
      ⟨outcome, handed.out, said ++ handed.err, handed.clipboard, [], settings.level, d.memory, d.key⟩

def run (settings : Settings) (fromStdin : Bool) (w : World) : Report :=
  let (ending, events) := ask settings fromStdin w.input
  conclude settings w (transcript w.stamp settings.level events) ending

/-- Whether settings that cannot be resolved are reported as a usage error. -/
def isUsageError : SettingsError → Bool
  | .file .noHome | .file .noMemory => false
  | _ => true

/-- The options and the settings of a command line, or the report of a run that ends before it has
any. -/
def prepare (words : List (List Char)) (w : World) : Except Report (Options × Settings) :=
  let stop (outcome : Outcome) (out err : String) : Except Report (Options × Settings) :=
    .error ⟨outcome, out, err, w.clipboard, [], Log.defaultThreshold, .empty, none⟩
  match Options.parse words with
  | .error .help => stop (.exited 0) Options.help ""
  | .error (.usage e) => stop (.exited 2) "" (Options.refusal e.message)
  | .ok options =>
    match Settings.resolve options.request w.environment w.files with
    | .ok settings => .ok (options, settings)
    | .error e =>
      if isUsageError e then stop (.exited 2) "" (Options.refusal e.message)
      else stop (.crashed (.settings e)) "" ""

def execute (words : List (List Char)) (w : World) : Report :=
  match prepare words w with
  | .error report => report
  | .ok (options, settings) =>
    if options.tui then
      ⟨.returned 0, "", "", w.clipboard, [settings], settings.level, .empty, none⟩
    else run settings options.stdin w

end KeyRecovery.Command
