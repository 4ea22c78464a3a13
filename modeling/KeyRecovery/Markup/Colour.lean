import KeyRecovery.Datum
import KeyRecovery.Decimal.Written
import KeyRecovery.Markup.ColourName

/-!
# Colours

* `Colour` : a mixture of red, green and blue with a share of it that is seen, or one that the text, the
  terminal or the theme chooses;
* `Colour.named?`, `Colour.read?` : the colour of a name, and the one that is written in numbers;
* `Colour.fade` : a colour of which less is seen;
* `Colour.text` : a colour as style sheets write it.

Two ways to write a mixture have one text: `#f00`, `red`, `rgb(255,0,0)` and `hsl(0,100%,50%)` are one
colour.
-/

namespace KeyRecovery.Markup

inductive Colour
  /-- A mixture, and the share of it that is seen. -/
  | mixture (red green blue : UInt8) (share : Float)
  | clear
  | automatic (share : Float)
  /-- One that the terminal chooses. -/
  | terminal (name : List Char)
  /-- One that the theme computes from others. -/
  | shade (name : List Char) (share : Float)

/-- The nearest number between two others. -/
def bounded (low high x : Float) : Float := if x < low then low else if high < x then high else x

/-- What a percentage stands for, between nothing and the whole. -/
def shareOf (s : List Char) : Float :=
  bounded 0.0 1.0 (Decimal.value (s.filter (· ≠ '%')) / 100.0)

namespace Colour

/-- The mixture of three bytes in one number, red in the highest. -/
def ofNumber (n : Nat) : Colour :=
  .mixture (.ofNat (n / 0x10000)) (.ofNat (n / 0x100)) (.ofNat n) 1.0

def named? (s : List Char) : Option Colour :=
  let name := String.ofList s
  if name = "transparent" then some .clear
  else if terminalColours.contains name then some (.terminal s)
  else (NameTable.find? namedColours name).map ofNumber

/-! ## Hue, saturation and lightness -/

/-- What is left of an angle in degrees without its full turns; never negative. -/
def withoutTurns (degrees : Float) : Float :=
  let size := degrees.abs
  if size.isFinite then
    let x := Decimal.Spread.ofBits size.toBits.toNat
    let rest := if size < 360.0 then size else Float.ofNat (x.value % (360 * x.unit)) / Float.ofNat x.unit
    if degrees < 0.0 && 0.0 < rest then 360.0 - rest else rest
  else degrees - degrees

/-- How much of a primary colour is in a mixture, between the least and the most of all three; the hue is
seen from that colour, in turns. -/
def portion (least most hue : Float) : Float :=
  let turn := hue - hue.floor
  if turn < 1.0 / 6.0 then least + (most - least) * turn * 6.0
  else if turn < 0.5 then most
  else if turn < 2.0 / 3.0 then least + (most - least) * (2.0 / 3.0 - turn) * 6.0
  else least

/-- A mixture by its hue in turns, its saturation and its lightness. -/
def ofHue (hue saturation lightness share : Float) : Colour :=
  let byte := fun (x : Float) => (x * 255.0 + 0.5).toUInt8
  if saturation == 0.0 then
    .mixture (byte lightness) (byte lightness) (byte lightness) share
  else
    let most :=
      if lightness ≤ 0.5 then lightness * (1.0 + saturation)
      else lightness + saturation - lightness * saturation
    let least := 2.0 * lightness - most
    let third := 1.0 / 3.0
    .mixture (byte (portion least most (hue + third))) (byte (portion least most hue))
      (byte (portion least most (hue - third))) share

/-! ## Colours in numbers -/

def hexValues (s : List Char) : List Nat := s.filterMap Hex.digit?

/-- The share of a mixture that a byte stands for. -/
def shareOfByte (n : Nat) : Float := Float.ofNat n / 255.0

/-- A mixture by hex digits, one or two for each part. -/
def ofHex? : List Nat → Option Colour
  | [r, g, b] => some (.mixture (.ofNat (17 * r)) (.ofNat (17 * g)) (.ofNat (17 * b)) 1.0)
  | [r, g, b, a] =>
    some (.mixture (.ofNat (17 * r)) (.ofNat (17 * g)) (.ofNat (17 * b)) (shareOfByte (17 * a)))
  | [r, r', g, g', b, b'] =>
    some (.mixture (.ofNat (16 * r + r')) (.ofNat (16 * g + g')) (.ofNat (16 * b + b')) 1.0)
  | [r, r', g, g', b, b', a, a'] =>
    some (.mixture (.ofNat (16 * r + r')) (.ofNat (16 * g + g')) (.ofNat (16 * b + b'))
      (shareOfByte (16 * a + a')))
  | _ => none

/-- The byte that a part of a mixture stands for, if it is finite: its whole part. -/
def byte? (x : Float) : Option UInt8 := if x.isFinite then some x.toUInt8 else none

/-- A mixture by its parts. -/
def ofParts? (red green blue share : Float) : Option Colour := do
  return .mixture (← byte? red) (← byte? green) (← byte? blue) (bounded 0.0 1.0 share)

/-- The pieces of a text between its commas. -/
def piecesOf : List Char → List (List Char)
  | [] => [[]]
  | ',' :: s => [] :: piecesOf s
  | c :: s =>
    match piecesOf s with
    | piece :: rest => (c :: piece) :: rest
    | [] => [[c]]

def read? (s : List Char) : Option Colour :=
  match s with
  | '#' :: digits => ofHex? (hexValues digits)
  | '$' :: name => some (.shade name 1.0)
  | _ =>
    let inside := ((s.dropWhile (· ≠ '(')).drop 1).takeWhile (· ≠ ')')
    let parts := (piecesOf inside).map Text.trim
    let hue := fun part => withoutTurns (Decimal.value part) / 360.0
    let inTurns := "hsl".toList.isPrefixOf s
    match parts with
    | [x, y, z] =>
      if inTurns then some (ofHue (hue x) (shareOf y) (shareOf z) 1.0)
      else ofParts? (Decimal.value x) (Decimal.value y) (Decimal.value z) 1.0
    | [x, y, z, a] =>
      if inTurns then
        some (ofHue (hue x) (shareOf y) (shareOf z) (bounded 0.0 1.0 (Decimal.value a)))
      else ofParts? (Decimal.value x) (Decimal.value y) (Decimal.value z) (Decimal.value a)
    | _ => none

/-! ## Shares and text -/

def fade (c : Colour) (share : Float) : Colour :=
  match c with
  | .mixture r g b a => .mixture r g b (a * share)
  | .clear => .mixture 0 0 0 (0.0 * share)
  | .automatic a => .automatic (a * share)
  | .terminal name => .terminal name
  | .shade name a => .shade name (a * share)

/-- A number of hundredths with one decimal, or with none if it is whole; a half goes to the even
neighbour. -/
def hundredths (x : Float) : List Char :=
  let fraction := Decimal.Spread.ofBits x.toBits.toNat
  if x.floor == x then Nat.toDigits 10 x.toUInt64.toNat
  else
    let n := 10 * fraction.value / fraction.unit
    let rest := 10 * fraction.value % fraction.unit
    let tenths :=
      if fraction.unit < 2 * rest ∨ (fraction.unit = 2 * rest ∧ n % 2 = 1) then n + 1 else n
    Nat.toDigits 10 (tenths / 10) ++ '.' :: Nat.toDigits 10 (tenths % 10)

def text : Colour → List Char
  | .mixture r g b a =>
    let parts := [r, g, b].map fun x => Nat.toDigits 10 x.toNat
    if a == 1.0 then "rgb(".toList ++ [','].intercalate parts ++ [')']
    else "rgba(".toList ++ [','].intercalate (parts ++ [Decimal.text a]) ++ [')']
  | .clear => "rgba(0,0,0,0)".toList
  | .automatic a => "auto ".toList ++ hundredths (bounded 0.0 1.0 a * 100.0) ++ ['%']
  | .terminal name => name
  | .shade name a => '$' :: name ++ ' ' :: Decimal.text a

end Colour

end KeyRecovery.Markup
