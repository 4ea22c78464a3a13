import KeyRecovery.Decimal.Written
import KeyRecovery.Text.Alphanumeric
import KeyRecovery.Text.Blank

/-!
# Lexemes of tags

* `Lexeme` : the smallest pieces inside of a tag, with the text that they take;
* `Lexeme.inTag?` : the lexeme at the start of a text in a tag;
* `Lexeme.inStyle?` : the same where a style is written by itself; texts between marks may stand there;
* `Lexeme.inValue?` : the lexeme at the start of a text behind a name with an equals sign.

No lexeme goes beyond the end of a line, but blanks may take what ends it. Each takes a character or more,
and the longest text of the first kind that fits; where no kind fits there is no lexeme.
-/

namespace KeyRecovery.Markup

inductive Lexeme
  /-- The name of a style or of a colour. -/
  | word (s : List Char)
  /-- A name with its equals sign. -/
  | key (s : List Char)
  /-- A share in hundredths. -/
  | percentage (s : List Char)
  /-- A colour given by numbers. -/
  | colour (s : List Char)
  /-- The name of something that the theme knows, behind a dollar sign. -/
  | reference (s : List Char)
  | blank (s : List Char)
  /-- Text between two marks, with the marks. -/
  | marked (s : List Char)
  /-- A word or a number in a value. -/
  | plain (s : List Char)
  | opens (c : Char)
  | closes (c : Char)
  | comma
  deriving DecidableEq

/-- The text that a lexeme takes. -/
def Lexeme.text : Lexeme → List Char
  | word s | key s | percentage s | colour s | reference s | blank s | marked s | plain s => s
  | opens c | closes c => [c]
  | comma => [',']

/-! ## Lines -/

/-- The characters that end a line. -/
def endsLine (c : Char) : Bool :=
  ['\n', '\x1c', '\x1d', '\x1e', '\u0085', '\u2028', '\u2029'].contains c

/-- The first line of a text, with what ends it. -/
def firstLine (s : List Char) : List Char :=
  s.takeWhile (!endsLine ·) ++ (s.dropWhile (!endsLine ·)).take 1

/-- White space at the start of a text, up to the end of the line. -/
def gap (s : List Char) : List Char := s.takeWhile fun c => Text.isBlank c && !endsLine c

/-- White space at the start of a text with the end of the line, if there is any. -/
def blank? (s : List Char) : Option (List Char) :=
  let inside := gap s
  let line := inside ++ ((s.drop inside.length).takeWhile endsLine).take 1
  if line.isEmpty then none else some line

/-! ## Words -/

/-- Letters and underscores start words. -/
def startsWord (c : Char) : Bool := c.isAlpha || c = '_'

/-- Digits and hyphens go on with them. -/
def inWord (c : Char) : Bool := startsWord c || c.isDigit || c = '-'

def word? (s : List Char) : Option (List Char) :=
  match s with
  | c :: rest => if startsWord c then some (c :: rest.takeWhile inWord) else none
  | [] => none

/-- The name with an equals sign at the start of a text. A hyphen or an at sign may start it. -/
def key? (s : List Char) : Option (List Char) :=
  match s with
  | c :: rest =>
    if startsWord c || c = '-' || c = '@' then
      match rest.dropWhile inWord with
      | '=' :: _ => some (c :: rest.takeWhile inWord ++ ['='])
      | _ => none
    else none
  | [] => none

def reference? (s : List Char) : Option (List Char) :=
  match s with
  | '$' :: rest =>
    let name := rest.takeWhile inWord
    if name.isEmpty then none else some ('$' :: name)
  | _ => none

/-- The text between two marks of one kind at the start of a text, with the marks. -/
def marked? (s : List Char) : Option (List Char) :=
  match s with
  | m :: rest =>
    if m = '\x22' ∨ m = '\x27' then
      let inside := rest.takeWhile fun c => c ≠ m && !endsLine c
      if (rest.drop inside.length).head? = some m then some (m :: inside ++ [m]) else none
    else none
  | [] => none

/-! ## Numbers and colours -/

def percentage? (s : List Char) : Option (List Char) :=
  (Decimal.written? s).bind fun d =>
    if (s.drop d.length).head? = some '%' then some (d ++ ['%']) else none

/-- The longest colour of eight, six, four or three hex digits at the start of a text. -/
def hexColour? (s : List Char) : Option (List Char) :=
  match s with
  | '#' :: rest =>
    let isHex := fun (c : Char) => c.isDigit || ('a' ≤ c && c ≤ 'f') || ('A' ≤ c && c ≤ 'F')
    let count := (rest.takeWhile isHex).length
    ([8, 6, 4, 3].find? (· ≤ count)).map fun n => '#' :: rest.take n
  | _ => none

/-- The ways to give a colour by its parts: the name of each, and for each part whether it is a
percentage. -/
def colourModels : List (List Char × List Bool) :=
  [("rgb(".toList, [false, false, false]), ("rgba(".toList, [false, false, false, false]),
    ("hsl(".toList, [false, true, true]), ("hsla(".toList, [false, true, true, false])]

/-- The comma at the start of a text, with the white space around it. -/
def comma? (s : List Char) : Option (List Char) :=
  let before := gap s
  match s.drop before.length with
  | ',' :: rest => some (before ++ ',' :: gap rest)
  | _ => none

/-- Numbers with commas between them at the start of a text; the flags say which are percentages. -/
def numbers? : List Bool → List Char → Option (List Char)
  | [], _ => some []
  | [inHundredths], s => if inHundredths then percentage? s else Decimal.written? s
  | inHundredths :: more, s => do
    let number ← if inHundredths then percentage? s else Decimal.written? s
    let comma ← comma? (s.drop number.length)
    let rest ← numbers? more (s.drop (number.length + comma.length))
    return number ++ comma ++ rest

/-- The colour given by its parts at the start of a text. -/
def partsColour? (s : List Char) : Option (List Char) := do
  let (name, parts) ← colourModels.find? (·.1.isPrefixOf s)
  let opening := name ++ gap (s.drop name.length)
  let numbers ← numbers? parts (s.drop opening.length)
  let start := opening ++ numbers
  let ending := gap (s.drop start.length) ++ [')']
  if ending.isPrefixOf (s.drop start.length) then some (start ++ ending) else none

/-! ## Lexemes -/

namespace Lexeme

def inTag? (s : List Char) : Option Lexeme :=
  ((key? s).map key).or <| ((percentage? s).map percentage).or <|
    (((hexColour? s).or (partsColour? s)).map colour).or <| ((word? s).map word).or <|
    ((reference? s).map reference).or ((blank? s).map blank)

def inStyle? (s : List Char) : Option Lexeme := (inTag? s).or ((marked? s).map marked)

/-- The characters of words in values: letters and digits of all scripts, the underscore and the point. -/
def isPlain (c : Char) : Bool := Text.isAlphanumeric c || c = '_' || c = '.'

def inValue? (s : List Char) : Option Lexeme :=
  match s with
  | [] => none
  | c :: _ =>
    if isPlain c then some (.plain (s.takeWhile isPlain))
    else if "([\x7b".toList.contains c then some (.opens c)
    else if ")\x7d".toList.contains c then some (.closes c)
    else if c = ',' then some .comma
    else ((blank? s).map blank).or ((marked? s).map marked)

end Lexeme

end KeyRecovery.Markup
