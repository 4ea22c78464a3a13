import KeyRecovery.Settings.Basic

/-!
# Command line options

* `Flag`, `Flag.spellings` : the options and how they are written;
* `Word`, `Word.classify` : what a word of the command line is, on its own. A long option may be
  cut short as long as one option alone starts that way; `=` attaches a value; one-letter options
  can share a hyphen;
* `Options.read` : options from classified words, in order, with words left over at the end;
* `Options.parse` : the two together;
* `UsageError.message`, `usage`, `help` : what is shown.

An ambiguous word is reported before anything else.
-/

namespace KeyRecovery

inductive Flag
  | help | salt | saltFile | password | stdin | copy | tui | verbose
  deriving DecidableEq, Repr

namespace Flag

def spellings : List (List Char × Flag) :=
  [("-h".toList, help), ("--help".toList, help), ("--salt".toList, salt),
    ("--salt-file".toList, saltFile), ("--password".toList, password), ("--stdin".toList, stdin),
    ("--copy".toList, copy), ("--tui".toList, tui), ("-v".toList, verbose),
    ("--verbose".toList, verbose)]

def takesValue : Flag → Bool
  | salt | saltFile | password => true
  | help | stdin | copy | tui | verbose => false

def ofSpelling? (s : List Char) : Option Flag := spellings.lookup s

def title (f : Flag) : String :=
  String.ofList (['/'].intercalate ((spellings.filter (·.2 = f)).map (·.1)))

end Flag

/-- What stands behind an option in the same word. -/
inductive Attached
  | nothing
  /-- A text after an equals sign. -/
  | value (s : List Char)
  /-- More letters after a one-letter option. -/
  | letters (s : List Char)
  deriving DecidableEq

inductive Word
  | plain
  | dashes
  | option (f : Flag) (attached : Attached)
  /-- It looks like an option, but none is written so. -/
  | unknown
  deriving DecidableEq

inductive UsageError
  /-- A word may be short for several options. -/
  | ambiguous (word : List Char) (spellings : List (List Char))
  /-- The value of an option is missing. -/
  | missingValue (f : Flag)
  /-- An option without a value is given one. -/
  | unwantedValue (f : Flag) (value : List Char)
  /-- Two options exclude each other. -/
  | conflict (f earlier : Flag)
  /-- Words are left over. -/
  | leftOver (words : List (List Char))
  deriving DecidableEq

def UsageError.message : UsageError → String
  | .ambiguous word spellings =>
    "ambiguous option: " ++ String.ofList word ++ " could match " ++
      String.ofList ([',', ' '].intercalate spellings)
  | .missingValue f => "argument " ++ f.title ++ ": expected one argument"
  | .unwantedValue f value =>
    "argument " ++ f.title ++ ": ignored explicit argument " ++ Text.quoted value
  | .conflict f earlier => "argument " ++ f.title ++ ": not allowed with argument " ++ earlier.title
  | .leftOver words => "unrecognized arguments: " ++ String.ofList ([' '].intercalate words)

namespace Word

/-- A text up to its first equals sign, and what follows the sign. -/
def cut (s : List Char) : List Char × Option (List Char) :=
  match s.dropWhile (· ≠ '=') with
  | [] => (s, none)
  | _ :: rest => (s.takeWhile (· ≠ '='), some rest)

/-- What a cut off text attaches. -/
def attachment : Option (List Char) → Attached
  | none => .nothing
  | some s => .value s

def isDecimals (s : List Char) : Bool := !s.isEmpty && s.all fun c => (Text.decimalValue? c).isSome

/-- Whether a word is a negative number: a hyphen with digits, or with a point before the last
digits. A line feed may follow. -/
def isNegativeNumber : List Char → Bool
  | '-' :: s =>
    let s := if s.getLast? = some '\n' then s.dropLast else s
    let whole := s.takeWhile (· ≠ '.')
    match s.dropWhile (· ≠ '.') with
    | [] => isDecimals s
    | _ :: places => (whole.isEmpty || isDecimals whole) && isDecimals places
  | _ => false

/-- What the start of a long option stands for. -/
def classifyLong (word : List Char) : Except UsageError (Option Word) :=
  let (start, value) := cut word
  match Flag.spellings.filter fun (s, _) => start.isPrefixOf s with
  | [] => .ok none
  | [(_, f)] => .ok (some (.option f (attachment value)))
  | several => .error (.ambiguous word (several.map (·.1)))

/-- What a word that starts with a hyphen and is no spelling of an option is. -/
def classifyHyphen (word : List Char) : Except UsageError Word := do
  let found ← match word with
    | '-' :: '-' :: _ => classifyLong word
    | '-' :: c :: letters =>
      pure ((Flag.ofSpelling? ['-', c]).map fun f => Word.option f (.letters letters))
    | _ => pure none
  match found with
  | some w => return w
  | none => return if isNegativeNumber word || word.contains ' ' then .plain else .unknown

def classify (word : List Char) : Except UsageError Word :=
  match word with
  | '-' :: _ :: _ =>
    match Flag.ofSpelling? word with
    | some f => .ok (.option f .nothing)
    | none =>
      match cut word with
      | (start, some value) =>
        match Flag.ofSpelling? start with
        | some f => .ok (.option f (.value value))
        | none => classifyHyphen word
      | (_, none) => classifyHyphen word
  | _ => .ok .plain

/-- What the words of a command line are. After two hyphens alone there are no more options. -/
def classifyAll : List (List Char) → Except UsageError (List (List Char × Word))
  | [] => .ok []
  | ['-', '-'] :: rest => .ok ((['-', '-'], .dashes) :: rest.map fun w => (w, .plain))
  | w :: rest => do
    let k ← classify w
    let ks ← classifyAll rest
    return (w, k) :: ks

end Word

structure Options where
  salt : Option (List Char)
  saltFile : Option (List Char)
  password : Option (List Char)
  stdin : Bool
  copy : Bool
  tui : Bool
  verbose : Bool
  deriving DecidableEq

/-- Why no options come out of a command line. -/
inductive Halt
  | help
  | usage (e : UsageError)
  deriving DecidableEq

namespace Options

def unset : Options := ⟨none, none, none, false, false, false, false⟩

def raise (o : Options) : Flag → Except Halt Options
  | .help => .error .help
  | .stdin => .ok { o with stdin := true }
  | .copy => .ok { o with copy := true }
  | .tui => .ok { o with tui := true }
  | .verbose => .ok { o with verbose := true }
  | .salt | .saltFile | .password => .ok o

/-- Gives an option its value. A salt and a salt file exclude each other. -/
def assign (o : Options) (f : Flag) (value : List Char) : Except Halt Options :=
  match f with
  | .salt =>
    if o.saltFile.isSome then .error (.usage (.conflict .salt .saltFile))
    else .ok { o with salt := some value }
  | .saltFile =>
    if o.salt.isSome then .error (.usage (.conflict .saltFile .salt))
    else .ok { o with saltFile := some value }
  | .password => .ok { o with password := some value }
  | _ => o.raise f

/-- The options that the letters behind a one-letter option `f` stand for. Letters from one on that stands
for none are left over, as a word of their own. A hyphen, or what follows an equals sign, is a value that the
option in front of it does not take. -/
def cluster (f : Flag) : List Char → Except UsageError (List Flag × Option (List Char))
  | [] => .ok ([], none)
  | '-' :: rest => .error (.unwantedValue f ('-' :: rest))
  | c :: rest =>
    match Flag.ofSpelling? ['-', c], rest with
    | none, _ => .ok ([], some ('-' :: c :: rest))
    | some g, '=' :: value => .error (.unwantedValue g value)
    | some g, rest => (cluster g rest).map fun (fs, left) => (g :: fs, left)

def read (o : Options) (left : List (List Char)) : List (List Char × Word) →
    Except Halt (Options × List (List Char))
  | [] => .ok (o, left)
  | (w, .plain) :: rest | (w, .dashes) :: rest | (w, .unknown) :: rest => read o (left ++ [w]) rest
  | (_, .option f (.value v)) :: rest =>
    if f.takesValue then do
      let o ← o.assign f v
      read o left rest
    else .error (.usage (.unwantedValue f v))
  | (_, .option f (.letters s)) :: rest => do
    let (fs, more) ← (cluster f s).mapError .usage
    let o ← (f :: fs).foldlM raise o
    read o (left ++ more.toList) rest
  | (_, .option f .nothing) :: rest =>
    if f.takesValue then
      match rest with
      | (v, .plain) :: rest => do
        let o ← o.assign f v
        read o left rest
      | _ => .error (.usage (.missingValue f))
    else do
      let o ← o.raise f
      read o left rest

def parse (words : List (List Char)) : Except Halt Options := do
  let ks ← (Word.classifyAll words).mapError .usage
  match ← read unset [] ks with
  | (o, []) => return o
  | (_, left) => throw (.usage (.leftOver left))

/-- What options ask of the settings. -/
def request (o : Options) : Request :=
  ⟨o.salt, o.saltFile, o.password, if o.verbose then some LogLevel.verbose else none, o.copy⟩

def program : String := "recoverykey"

def usage : String :=
  "usage: recoverykey [-h] [--salt SALT | --salt-file SALT_FILE]\n" ++
  "                   [--password PASSWORD] [--stdin] [--copy] [--tui] [-v]\n"

def help : String :=
  usage ++ "\n" ++
  "Derive the intermediate key of a BitLocker-style recovery password.\n" ++
  "\n" ++
  "options:\n" ++
  "  -h, --help            show this help message and exit\n" ++
  "  --salt SALT           16-byte salt as 32 hex digits\n" ++
  "  --salt-file SALT_FILE\n" ++
  "                        File holding the 16 raw salt bytes\n" ++
  "  --password PASSWORD   Recovery password (8 blocks of 6 digits separated by\n" ++
  "                        '-'); prompted if omitted\n" ++
  "  --stdin               Read the password keystrokes from piped standard input\n" ++
  "  --copy                Copy the derived key to the clipboard\n" ++
  "  --tui                 Enter the password in the Textual interface\n" ++
  "  -v, --verbose         Debug logging\n"

/-- What is written when a command line, or the settings it leads to, are refused. -/
def refusal (message : String) : String :=
  usage ++ program ++ ": error: " ++ message ++ "\n"

end Options

end KeyRecovery
