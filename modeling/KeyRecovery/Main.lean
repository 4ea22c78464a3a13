import KeyRecovery.Command.Run
import KeyRecovery.Form.Basic
import KeyRecovery.Markup.Check
import Std.Time.Format

/-!
# The program

Reads the command line, the environment, the salt file and standard input, and writes what the
command says. Without a password it holds the entry dialogue, drawing after every stroke, or reads all
of standard input if it is asked to; with the form option it draws the form as lines of text.
-/

namespace KeyRecovery.Main

/-- The number and the text of a failed read of a file. -/
def systemError : IO.Error → Nat × String
  | .noFileOrDirectory _ _ _ => (2, "No such file or directory")
  | .permissionDenied _ _ _ => (13, "Permission denied")
  | .inappropriateType _ code text => (code.toNat, text)
  | .noSuchThing _ code text => (code.toNat, text)
  | .invalidArgument _ code text => (code.toNat, text)
  | .otherError code text => (code.toNat, text)
  | e => (5, toString e)

/-- The number and the text of a path where nothing is. -/
def missing : Nat × String := (2, "No such file or directory")

/-- A file system that holds what was found at one path, and knows of no home directories. -/
def holding (path : Path) (found : Except (Nat × String) (List UInt8)) : FileSystem where
  read p := (if p = path then found else .error missing).mapError fun (code, text) => .system code text p
  home _ := none
  read_ne_noHome p := by
    cases (if p = path then found else .error missing) <;> nofun

def readFile (path : Path) : IO (Except (Nat × String) (List UInt8)) := do
  try
    let contents ← IO.FS.readBinFile (String.ofList path.text)
    return .ok contents.toList
  catch e => return .error (systemError e)

/-- The variables that the settings look at. -/
def readEnvironment : IO Environment := do
  let names := [Settings.saltVariable, Settings.passwordVariable, Settings.levelVariable,
    Settings.homeVariable]
  let found ← names.filterMapM fun name => do
    return (← IO.getEnv name).map fun value => (name, value.toList)
  return fun name => found.lookup name

/-- The files that the settings of a command line look at. -/
def readFiles (words : List (List Char)) (env : Environment) : IO FileSystem := do
  match Options.parse words with
  | .ok { saltFile := some text, .. } =>
    match (Path.parse text).expandHome (env Settings.homeVariable) fun _ => none with
    | .ok path => return holding path (← readFile path)
    | .error _ => return holding (Path.parse text) (.error missing)
  | _ => return holding (Path.parse []) (.error missing)

def twoDigits (n : Int) : String := if n < 10 then "0" ++ toString n else toString n

def timeOfDay : IO String := do
  let t ← Std.Time.PlainTime.now
  return ":".intercalate [twoDigits t.hour.val, twoDigits t.minute.val, twoDigits t.second.val]

/-- One byte of standard input as the character of its number. -/
def readCharacter (input : IO.FS.Stream) : IO (Option Char) := do
  let bytes ← input.read 1
  return bytes.toList.head?.map fun b => Char.ofNat b.toNat

/-- All bytes of standard input. -/
partial def readAll (input : IO.FS.Stream) (found : ByteArray) : IO ByteArray := do
  let more ← input.read 4096
  if more.isEmpty then return found
  readAll input (found ++ more)

/-- Writes the events of a dialogue to standard error. -/
def draw (level : Int) (events : List Dialogue.Event) : IO Unit := do
  let err ← IO.getStderr
  err.putStr (Command.transcript (← timeOfDay) level events)
  err.flush

/-- Holds the entry dialogue on standard input, one turn after the other. -/
partial def converse (input : IO.FS.Stream) (level : Int) (m : Machine) : IO Command.Asked := do
  let n := Dialogue.turn Dialogue.standardPrompt m (.ok (← readCharacter input))
  draw level n.events
  match n.result with
  | some result => return Command.asked result
  | none => converse input level n.machine

/-- The key stroke that a character of standard input stands for. -/
def keyOf (c : Char) : KeyEvent :=
  let name := if c = '\x1b' then "escape".toList
    else if Stroke.erasers.contains c then "backspace".toList
    else [c]
  ⟨name, some [c], Text.allPrintable [c], fun _ => rfl⟩

/-- Runs the oldest derivation that a form asks for, and takes over its key. -/
def workOne (f : Form) : Form :=
  match f.workNext with
  | (none, f) => f
  | (some (.ok report), f) => (f.settle report.datum).2
  | (some (.error _), f) => (f.settle .nothing).2

/-- Runs all derivations that a form asks for. None of them asks for another. -/
def workOff (f : Form) : Form := f.jobs.foldl (fun f _ => workOne f) f

/-- The fault that the markup of the toolkit finds with a text. -/
def findFault (text : List Char) : Except String Unit := (Markup.check text).mapError Markup.Fault.message

/-- Shows a form as lines of text. -/
def display (f : Form) : IO Unit := do
  match f.screen with
  | none => return
  | some s => IO.println (String.ofList s.prompt ++ "\n" ++ s.status ++ "\n" ++ s.key)

/-- Holds the form on standard input, until it is left. -/
partial def operate (input : IO.FS.Stream) (f : Form) : IO Unit := do
  let f := workOff f
  display f
  if 0 < f.exits then return
  match ← readCharacter input with
  | none => display f.unmount
  | some c =>
    match f.press (keyOf c) with
    | .ok (_, f) => operate input f
    | .error _ => display f.unmount

/-- Writes a report out and gives its code back. -/
def close (r : Command.Report) : IO UInt32 := do
  (← IO.getStdout).putStr r.out
  (← IO.getStderr).putStr r.err
  match r.outcome with
  | .returned code | .exited code => return UInt32.ofNat code
  | .crashed (.settings e) => throw (IO.userError e.message)
  | .crashed (.clipboard e) => throw (IO.userError e.message)
  | .crashed (.notText e) => throw (IO.userError e.message)
  | .crashed _ => throw (IO.userError "the key could not be derived")

/-- Runs a command line with settings: the form, the given password, or the dialogue. -/
def serve (world : Command.World) (options : Options) (settings : Settings) : IO UInt32 := do
  let input ← IO.getStdin
  if options.tui then
    match (Form.new settings world.rounds world.clipboard findFault).mount with
    | .ok f => operate input f
    | .error e => throw (IO.userError e.message)
    return 0
  else
    match settings.password, options.stdin with
    | some (_ :: _), stdin => close (Command.run settings stdin world)
    | _, true =>
      let bytes ← readAll input .empty
      let device := (Device.idle .pipe Mode.cooked).receive bytes.toList
      close (Command.run settings true { world with input := .device device })
    | _, false =>
      draw settings.level [.write (Machine.start.line Dialogue.standardPrompt)]
      let asked ← converse input settings.level .start
      close (Command.conclude settings world "" asked)

end KeyRecovery.Main

open KeyRecovery in
/-- The program: a run on a command line. -/
def main (args : List String) : IO UInt32 := do
  let words := args.map String.toList
  let environment ← Main.readEnvironment
  let files ← Main.readFiles words environment
  let world : Command.World :=
    ⟨environment, files, .text [], ⟨[], true, true⟩, Chain.standardRounds, ← Main.timeOfDay⟩
  match Command.prepare words world with
  | .error report => Main.close report
  | .ok (options, settings) => Main.serve world options settings
