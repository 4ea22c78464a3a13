import KeyRecovery.Settings.LogLevel
import KeyRecovery.Settings.Path
import KeyRecovery.Settings.Salt

/-!
# Settings

* `Settings` : what the programs need to know: the salt, a password if one is given up front, the log
  level, and whether the key goes to the clipboard;
* `Request` : what was asked for explicitly;
* `Environment` : variables by name;
* `Settings.resolve` : settings from a request, with the environment where the request is silent. The
  salt is looked at first, then the password, then the log level.
-/

namespace KeyRecovery

structure Settings where
  salt : List UInt8
  password : Option (List Char)
  level : Int
  copy : Bool
  deriving DecidableEq

structure Request where
  salt : Option (List Char)
  saltFile : Option (List Char)
  password : Option (List Char)
  level : Option Int
  copy : Bool
  deriving DecidableEq

def Request.silent : Request := ⟨none, none, none, none, false⟩

abbrev Environment := String → Option (List Char)

inductive SettingsError
  | noSalt
  /-- The salt given is none. -/
  | salt (e : SaltError)
  | file (e : FileError)
  | level (e : LevelError)
  deriving DecidableEq

namespace Settings

def saltVariable : String := "RECOVERYKEY_SALT"

def passwordVariable : String := "RECOVERYKEY_PASSWORD"

def levelVariable : String := "RECOVERYKEY_LOG_LEVEL"

def homeVariable : String := "HOME"

/-- A variable that is set to something. -/
def nonempty? (env : Environment) (name : String) : Option (List Char) :=
  (env name).filter fun s => !s.isEmpty

def readSaltFile (env : Environment) (fs : FileSystem) (path : List Char) :
    Except SettingsError (List UInt8) := do
  let p ← ((Path.parse path).expandHome (env homeVariable) fs.home).mapError .file
  let contents ← (fs.read p).mapError .file
  (Salt.ofFile contents).mapError .salt

/-- The salt: from the file asked for, else the text asked for, else the environment. -/
def resolveSalt (r : Request) (env : Environment) (fs : FileSystem) :
    Except SettingsError (List UInt8) :=
  match r.saltFile with
  | some path => readSaltFile env fs path
  | none =>
    match r.salt.or (env saltVariable) with
    | none | some [] => .error .noSalt
    | some text => (Salt.parse text).mapError .salt

/-- The log level: the one asked for, else the one in the environment, else the usual one. -/
def resolveLevel (r : Request) (env : Environment) : Except SettingsError Int :=
  match r.level with
  | some level => .ok level
  | none =>
    match nonempty? env levelVariable with
    | some text => (LogLevel.parse text).mapError .level
    | none => .ok LogLevel.standard

def resolve (r : Request) (env : Environment) (fs : FileSystem) : Except SettingsError Settings := do
  let salt ← resolveSalt r env fs
  let level ← resolveLevel r env
  return ⟨salt, r.password.or (nonempty? env passwordVariable), level, r.copy⟩

end Settings

def SettingsError.message : SettingsError → String
  | .noSalt => "no salt given (use --salt, --salt-file or $" ++ Settings.saltVariable ++ ")"
  | .salt e => e.message
  | .file e => e.message
  | .level e => e.message

end KeyRecovery
