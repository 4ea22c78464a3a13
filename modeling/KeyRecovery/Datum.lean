import KeyRecovery.Decimal.Shortest
import KeyRecovery.Text.Quoted

/-!
# Data of any kind

What the parts of the program hand to each other without agreeing on its form first.

* `Datum` : nothing, truth values, numbers, texts, lists, and tables in the order of their keys;
* `Datum.holds` : whether a datum counts as true; nothing, zero and everything empty do not;
* `Datum.kind` : the name of its kind;
* `Datum.shown` : a datum as a message shows it. A text stands for itself, and is quoted inside of
  lists and tables;
* `Decimal.text` : a double as it is shown, by its shortest decimal.
-/

namespace KeyRecovery

namespace Decimal

/-- Digits with a point, for a decimal that is neither very large nor very small. -/
def positional (d : Shortest) : List Char :=
  if d.point ≤ 0 then "0.".toList ++ List.replicate (-d.point).toNat '0' ++ d.digits
  else
    let whole := d.digits.take d.point.toNat
    let zeros := List.replicate (d.point.toNat - d.digits.length) '0'
    let rest := d.digits.drop d.point.toNat
    whole ++ zeros ++ '.' :: (if rest.isEmpty then ['0'] else rest)

/-- One digit in front of the point, and the power of ten with a sign and at least two digits. -/
def scientific (d : Shortest) : List Char :=
  let power := d.point - 1
  let rest := d.digits.drop 1
  d.digits.take 1 ++ (if rest.isEmpty then [] else '.' :: rest) ++
    ['e', if power < 0 then '-' else '+'] ++
    (if power.natAbs < 10 then ['0'] else []) ++ Nat.toDigits 10 power.natAbs

/-- A positive finite double: in positions from a ten-thousandth up to ten quadrillions. -/
def textOfPositive (bits : Nat) : List Char :=
  let d := (Spread.ofBits bits).shortest
  if -4 < d.point ∧ d.point ≤ 16 then positional d else scientific d

def text (x : Float) : List Char :=
  let bits := x.toBits.toNat
  let size := bits % Double.signBit
  if Double.infinityBits < size then "nan".toList
  else
    (if Double.signBit ≤ bits then ['-'] else []) ++
      (if size = Double.infinityBits then "inf".toList
        else if size = 0 then "0.0".toList
        else textOfPositive size)

end Decimal

inductive Datum
  | nothing
  | flag (b : Bool)
  | whole (n : Int)
  | real (x : Float)
  | text (s : List Char)
  | list (items : List Datum)
  | table (entries : List (List Char × Datum))
  deriving Inhabited

namespace Datum

/-- Whether a datum counts as true. -/
def holds : Datum → Bool
  | nothing => false
  | flag b => b
  | whole n => n != 0
  | real x => x != 0
  | text s => !s.isEmpty
  | list items => !items.isEmpty
  | table entries => !entries.isEmpty

def kind : Datum → String
  | nothing => "NoneType"
  | flag _ => "bool"
  | whole _ => "int"
  | real _ => "float"
  | text _ => "str"
  | list _ => "list"
  | table _ => "dict"

mutual

/-- A datum as it is shown in a list or a table. -/
def inner : Datum → List Char
  | nothing => "None".toList
  | flag b => (if b then "True" else "False").toList
  | whole n => (toString n).toList
  | real x => Decimal.text x
  | text s => Text.Quoted.quote s
  | list items => '[' :: innerItems items ++ [']']
  | table entries => '\x7b' :: innerEntries entries ++ ['\x7d']

def innerItems : List Datum → List Char
  | [] => []
  | [d] => inner d
  | d :: rest => inner d ++ ", ".toList ++ innerItems rest

def innerEntries : List (List Char × Datum) → List Char
  | [] => []
  | [(key, d)] => Text.Quoted.quote key ++ ": ".toList ++ inner d
  | (key, d) :: rest =>
    Text.Quoted.quote key ++ ": ".toList ++ inner d ++ ", ".toList ++ innerEntries rest

end

def shown : Datum → List Char
  | text s => s
  | d => inner d

def find? (key : String) : Datum → Option Datum
  | table entries => entries.lookup key.toList
  | _ => none

end Datum

end KeyRecovery
