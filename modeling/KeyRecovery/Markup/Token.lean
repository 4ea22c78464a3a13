import KeyRecovery.Markup.Lexeme

/-!
# Tokens of text with markup

Text is marked up by tags, `[bold]` to start and `[/bold]` to end. A backslash in front of a bracket
takes its meaning away.

* `Token` : the brackets of tags and the lexemes between them; text outside of tags is left out;
* `Part` : where a reader is: outside of tags, in a tag, or in the value behind an equals sign;
* `visible` : a text without the control characters that are never shown;
* `Token.scan` : the tokens of a text. What cannot stand in a value ends the scan.

A value goes on to the end of its tag. Its opening brackets are counted, also beyond that end, and a
closing bracket without an opening one in front of it ends the tag as well.
-/

namespace KeyRecovery.Markup

inductive Token
  /-- The bracket that opens a tag. -/
  | opening
  /-- The bracket and the slash that open a closing tag. -/
  | closing
  /-- The bracket that ends a tag. -/
  | finish
  /-- A piece of a tag. -/
  | piece (l : Lexeme)
  /-- A character that has no place in a tag. -/
  | stray (c : Char)
  /-- What follows cannot stand in a value: the rest of its line. -/
  | misplaced (rest : List Char)
  deriving DecidableEq

inductive Part
  | outside
  | tag
  /-- In the value behind a name. -/
  | value
  deriving DecidableEq

/-- The part behind a lexeme of a tag. -/
def Part.behind : Lexeme → Part
  | .key _ => value
  | _ => tag

def visible (s : List Char) : List Char :=
  s.filter fun c => c ∉ ['\x07', '\x08', '\x0b', '\x0c', '\x0d']

namespace Token

/-- The text of a token in a tag. -/
def text : Token → List Char
  | opening => ['[']
  | closing => ['[', '/']
  | finish => [']']
  | piece l => l.text
  | stray c => [c]
  | misplaced rest => rest

/-- Scans on, behind the character `last`, with a reader in some part and with some brackets open. Each
token takes its text and at least one character. -/
def scanFrom (part : Part) (brackets : Nat) (last : Char) : List Char → List Token
  | [] => []
  | c :: s =>
    let escaped := last = '\x5c'
    match part with
    | .outside =>
      if c = '[' ∧ ¬ escaped then
        match s with
        | '/' :: s => closing :: scanFrom .tag brackets '/' s
        | s => opening :: scanFrom .tag brackets '[' s
      else scanFrom .outside brackets c s
    | .tag =>
      if c = ']' ∧ ¬ escaped then finish :: scanFrom .outside brackets c s
      else match Lexeme.inTag? (c :: s) with
        | none => stray c :: scanFrom .tag brackets c s
        | some l =>
          piece l :: scanFrom (.behind l) brackets (l.text.getLastD c) (s.drop (l.text.length - 1))
    | .value =>
      if c = ']' then finish :: scanFrom .outside brackets c s
      else match Lexeme.inValue? (c :: s) with
        | none => [misplaced (firstLine (c :: s))]
        | some (.opens b) => piece (.opens b) :: scanFrom .value (brackets + 1) c s
        | some (.closes b) =>
          match brackets with
          | 0 => finish :: scanFrom .outside 0 c s
          | n + 1 => piece (.closes b) :: scanFrom .value n c s
        | some l =>
          piece l :: scanFrom .value brackets (l.text.getLastD c) (s.drop (l.text.length - 1))
  termination_by s => s.length
  decreasing_by all_goals simp only [List.length_drop, List.length_cons]; omega

def scan (s : List Char) : List Token := scanFrom .outside 0 ' ' (visible s)

end Token

end KeyRecovery.Markup
