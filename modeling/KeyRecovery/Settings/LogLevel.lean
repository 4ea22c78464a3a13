import KeyRecovery.Text.Numeral
import KeyRecovery.Text.Quoted

/-!
# Log levels as text

A log level is written as a number, in decimal digits of any script, or as one of eight names in
letters of either case.

* `LogLevel.capitals` : a text in capital letters, as far as that can make an ASCII word;
* `LogLevel.named?` : the level with a name;
* `LogLevel.parse` : the level that a text denotes. Digits that are no decimal digits make a text a
  number, but one that cannot be read.
-/

namespace KeyRecovery

inductive LevelError
  /-- It is neither a number nor a name. -/
  | unknown (text : List Char)
  /-- It consists of digits, not all of them decimal. -/
  | notDecimal (text : List Char)
  /-- It starts with `count` decimal digits, more than are read. -/
  | tooLong (count : Nat)
  deriving DecidableEq

namespace LogLevel

/-- The level used if nobody says otherwise. -/
def standard : Int := 20

/-- The level that shows everything. -/
def verbose : Int := 10

def names : List (String × Int) :=
  [("CRITICAL", 50), ("FATAL", 50), ("ERROR", 40), ("WARN", 30), ("WARNING", 30), ("INFO", 20),
    ("DEBUG", 10), ("NOTSET", 0)]

/-- A character in capitals, if these are ASCII letters; else the character itself. -/
def capital (c : Char) : List Char :=
  if 'a' ≤ c ∧ c ≤ 'z' then [c.toUpper]
  else if c = '\u00df' then ['S', 'S']
  else if c = '\u0131' then ['I']
  else if c = '\u017f' then ['S']
  else if c = '\ufb00' then ['F', 'F']
  else if c = '\ufb01' then ['F', 'I']
  else if c = '\ufb02' then ['F', 'L']
  else if c = '\ufb03' then ['F', 'F', 'I']
  else if c = '\ufb04' then ['F', 'F', 'L']
  else if c = '\ufb05' ∨ c = '\ufb06' then ['S', 'T']
  else [c]

def capitals (s : List Char) : List Char := s.flatMap capital

def named? (s : List Char) : Option Int := names.lookup (String.ofList (capitals s))

/-- The longest number that is read, in digits. -/
def digitLimit : Nat := 4300

def parse (s : List Char) : Except LevelError Int :=
  if !s.isEmpty && s.all Text.isDigitMark then
    if digitLimit < Text.leadingDecimals s then .error (.tooLong (Text.leadingDecimals s))
    else match Text.decimal? s with
      | some n => .ok n
      | none => .error (.notDecimal s)
  else match named? s with
    | some level => .ok level
    | none => .error (.unknown s)

end LogLevel

/-- What is said about a text that is no level. A text of digits is shown up to 200 characters. -/
def LevelError.message : LevelError → String
  | .unknown text => "unknown log level: " ++ Text.quoted text
  | .notDecimal text =>
    "invalid literal for int() with base 10: " ++ String.ofList ((Text.Quoted.quote text).take 200)
  | .tooLong n =>
    "Exceeds the limit (" ++ toString LogLevel.digitLimit ++
      " digits) for integer string conversion: value has " ++ toString n ++
      " digits; use sys.set_int_max_str_digits() to increase the limit"

end KeyRecovery
