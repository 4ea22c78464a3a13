import KeyRecovery.Markup.Colour
import KeyRecovery.Markup.Theme

/-!
# Styles

* `Attribute` : what a style switches on and off, with its words;
* `Style` : colours, switched attributes, whether there is a link, and the names that have values;
* `Style.ofText?` : the style that a text describes, word by word;
* `Style.text` : a style in one order and one spelling. The values of names are no part of it.

A value is not looked into. It ends at white space outside of its brackets, or with the bracket that closes
its first one; a text between marks as value ends the whole description.
-/

namespace KeyRecovery.Markup

inductive Attribute
  | bold
  | dim
  | italic
  | underline
  | doubleUnderline
  | reverse
  | strike
  | blink
  deriving DecidableEq

namespace Attribute

def all : List Attribute := [bold, dim, italic, underline, doubleUnderline, reverse, strike, blink]

/-- The word for an attribute. -/
def name : Attribute → List Char
  | bold => "bold".toList
  | dim => "dim".toList
  | italic => "italic".toList
  | underline => "underline".toList
  | doubleUnderline => "underline2".toList
  | reverse => "reverse".toList
  | strike => "strike".toList
  | blink => "blink".toList

/-- The short word for an attribute, if it has one. -/
def short? : Attribute → Option (List Char)
  | bold => some ['b']
  | dim => some ['d']
  | italic => some ['i']
  | underline => some ['u']
  | doubleUnderline => some ['u', 'u']
  | reverse => some ['r']
  | strike => some ['s']
  | blink => none

def ofWord? (s : List Char) : Option Attribute := all.find? fun a => a.name = s ∨ a.short? = some s

end Attribute

structure Style where
  /-- The colour of the text. -/
  foreground : Option Colour
  /-- The colour behind the text. -/
  background : Option Colour
  /-- The attributes, each switched on or off or left alone. -/
  switches : Attribute → Option Bool
  /-- Whether there is a link. -/
  link : Bool
  /-- The names that have values, each once, the first one first. -/
  names : List (List Char)

namespace Style

/-- The style that changes nothing. -/
def plain : Style := ⟨none, none, fun _ => none, false, []⟩

/-- A style with an attribute switched. -/
def switch (s : Style) (a : Attribute) (on : Bool) : Style :=
  { s with switches := fun b => if b = a then some on else s.switches b }

/-- A style with a value for a name. -/
def record (s : Style) (name : List Char) : Style :=
  if name = "link".toList then { s with link := true }
  else if s.names.contains name then s
  else { s with names := s.names ++ [name] }

/-- The words of a style: its colours, its attributes, its link, its names. -/
def words (s : Style) : List (List Char) :=
  (s.foreground.map Colour.text).toList ++
    (s.background.map ("on ".toList ++ ·.text)).toList ++
    Attribute.all.filterMap (fun a =>
      (s.switches a).map fun on => if on then a.name else "not ".toList ++ a.name) ++
    (if s.link then ["link".toList] else []) ++
    s.names.map (· ++ ['='])

def text (s : Style) : List Char := [' '].intercalate s.words

end Style

/-! ## Reading a description -/

/-- Where a reader of a description is. -/
inductive Place
  /-- Among the words. -/
  | among
  /-- Right behind a name. -/
  | behind (name : List Char)
  /-- In the value of a name, with some of its brackets open; behind a closing bracket without an opening
  one it is made of the lexemes of words. -/
  | inside (name : List Char) (brackets : Nat) (unbound : Bool)
  /-- Behind the end. -/
  | over
  deriving DecidableEq

/-- What was read of a description: the style so far, whether colours are those behind the text, how the next
attribute is switched, how many brackets are open, and where the reader is. -/
structure Description where
  style : Style
  behindText : Bool
  on : Bool
  brackets : Nat
  place : Place

namespace Description

def start : Description := ⟨.plain, false, true, 0, .among⟩

/-- The colour that colours and percentages are about. -/
def colour (d : Description) : Option Colour :=
  if d.behindText then d.style.background else d.style.foreground

/-- Replaces the colour. -/
def paint (d : Description) (c : Option Colour) : Description :=
  if d.behindText then { d with style := { d.style with background := c } }
  else { d with style := { d.style with foreground := c } }

/-- Reads a word. One that is no other is the name of a colour. -/
def word? (d : Description) (s : List Char) : Option Description :=
  if s = "link".toList then some { d with style := { d.style with link := true } }
  else if s = "on".toList then some { d with behindText := true }
  else if s = "auto".toList then some (d.paint (some (.automatic 1.0)))
  else if s = "not".toList then some { d with on := false }
  else match Attribute.ofWord? s with
    | some a => some { d with style := d.style.switch a d.on, on := true }
    | none => (Colour.named? s).map fun c => d.paint (some c)

/-- The value of a name is read to its end. -/
def close (d : Description) (name : List Char) (place : Place) : Description :=
  { d with style := d.style.record name, place := place }

/-- The lexeme at the start of the rest of a description. -/
def lexeme? (d : Description) (s : List Char) : Option Lexeme :=
  match d.place with
  | .among | .inside _ _ true => Lexeme.inStyle? s
  | .behind _ | .inside _ _ false => Lexeme.inValue? s
  | .over => none

/-- Reads a lexeme that is no reference. -/
def take? (d : Description) (l : Lexeme) : Option Description :=
  match d.place with
  | .over => some d
  | .among =>
    match l with
    | .word s => d.word? s
    | .colour s => (Colour.read? s).map fun c => d.paint (some c)
    | .percentage s => some (d.paint (d.colour.map (·.fade (shareOf s))))
    | .key s => some { d with place := .behind s.dropLast }
    | _ => some d
  | .behind name =>
    match l with
    | .marked _ => some (d.close name .over)
    | .opens _ => some { d with brackets := d.brackets + 1, place := .inside name 0 false }
    | .closes _ =>
      some { d with brackets := d.brackets - 1, place := .inside name 0 (d.brackets == 0) }
    | _ => some { d with place := .inside name 0 false }
  | .inside name n unbound =>
    match l with
    | .blank _ => if n = 0 then some (d.close name .among) else some d
    | .key _ => some { d with place := .inside name n false }
    | .opens _ => some { d with brackets := d.brackets + 1, place := .inside name (n + 1) unbound }
    | .closes _ =>
      match d.brackets, n with
      | 0, _ => some { d with place := .inside name n true }
      | _ + 1, 0 => none
      | b + 1, 1 => some ({ d with brackets := b }.close name .among)
      | b + 1, n + 2 => some { d with brackets := b, place := .inside name (n + 1) unbound }
    | _ => some d

/-- Reads a lexeme; a reference stands for other lexemes. -/
def step? (d : Description) (l : Lexeme) : Option Description :=
  match l with
  | .reference s => (Theme.lexemes? (s.drop 1)).bind (·.foldlM take? d)
  | _ => d.take? l

/-- Reads on to the end, or to a value between marks. -/
def run? (d : Description) : List Char → Option Description
  | [] => some d
  | c :: s =>
    if d.place = .over then some d
    else
      match d.lexeme? (c :: s) with
      | none => none
      | some l =>
        match d.step? l with
        | none => none
        | some d => d.run? (s.drop (l.text.length - 1))
  termination_by s => s.length
  decreasing_by simp only [List.length_drop, List.length_cons]; omega

/-- The style that was described when the text ends. -/
def finish (d : Description) : Style :=
  match d.place with
  | .behind name | .inside name _ _ => d.style.record name
  | _ => d.style

end Description

def Style.ofText? (s : List Char) : Option Style :=
  (Description.start.run? s).map Description.finish

end KeyRecovery.Markup
