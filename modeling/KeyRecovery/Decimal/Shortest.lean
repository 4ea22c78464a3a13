import KeyRecovery.Double

/-!
# The shortest decimal of a double

A double stands for all reals that round to it: an interval around its value, whose ends belong to
it exactly when its last digit is even. The shortest decimal is the one with the fewest digits in
that interval, of several the nearest to the value, and of two equally near the even one.

* `Spread` : the interval of a positive double, as fractions with one denominator;
* `Spread.ofBits` : the interval that the bits of a double stand for;
* `Spread.point` : where the decimal point stands in the value;
* `Shortest`, `Spread.shortest` : the digits of the shortest decimal, and its point.

Seventeen digits are always enough.
-/

namespace KeyRecovery.Decimal

structure Spread where
  low : Nat
  value : Nat
  high : Nat
  unit : Nat
  closed : Bool

/-- Digits behind `0.`, to be taken times ten to the power `point`. -/
structure Shortest where
  digits : List Char
  point : Int
  deriving DecidableEq

/-- How many decimal digits a number has; zero has one. -/
def digitCount (n : Nat) : Nat := (Nat.toDigits 10 n).length

namespace Spread

/-- The reals that round to a positive finite double, in quarters of its last binary digit. Below a
power of two the next double is only half as far away. -/
def ofBits (bits : Nat) : Spread :=
  let exponent := bits / Double.binade % 0x800
  let fraction := bits % Double.binade
  let digits := if exponent = 0 then fraction else Double.binade + fraction
  let shift := max exponent 1
  let below := if fraction = 0 ∧ 1 < exponent then 1 else 2
  let scale := 1 <<< (shift - 1077)
  ⟨(4 * digits - below) * scale, 4 * digits * scale, (4 * digits + 2) * scale, 1 <<< (1077 - shift),
    digits % 2 = 0⟩

/-- The number `k` for which the value is at least `10 ^ (k - 1)` and less than `10 ^ k`. -/
def point (x : Spread) : Int :=
  if x.unit ≤ x.value then digitCount (x.value / x.unit)
  else 1 - (digitCount ((x.unit + x.value - 1) / x.value - 1) : Int)

/-- Whether the fraction `a / b` rounds to the double. -/
def holds (x : Spread) (a b : Nat) : Bool :=
  if x.closed then x.low * b ≤ a * x.unit && a * x.unit ≤ x.high * b
  else x.low * b < a * x.unit && a * x.unit < x.high * b

/-- The multiple of `10 ^ (k - n)` that rounds to the double and is nearest to it, if there is one; it
has `n` digits. Only the two multiples next to the value need a look. -/
def nearest? (x : Spread) (k : Int) (n : Nat) : Option Nat :=
  let a := Nat.pow 10 (k - n).toNat
  let b := Nat.pow 10 (n - k).toNat
  let c := x.value * b / (x.unit * a)
  match x.holds (c * a) b, x.holds ((c + 1) * a) b with
  | false, false => none
  | true, false => some c
  | false, true => some (c + 1)
  | true, true =>
    let twice := 2 * x.value * b
    let middle := (2 * c + 1) * x.unit * a
    if twice < middle ∨ (twice = middle ∧ c % 2 = 0) then some c else some (c + 1)

/-- A number without the zeros at its end, in digits. -/
def significant (n : Nat) : List Char :=
  ((Nat.toDigits 10 n).reverse.dropWhile (· = '0')).reverse

def shortest (x : Spread) : Shortest :=
  let k := x.point
  let found := (List.range 17).findSome? fun i => (x.nearest? k (i + 1)).map fun c => (c, i + 1)
  match found with
  | some (c, n) => ⟨significant c, digitCount c + (k - n)⟩
  | none => ⟨significant (x.value / x.unit), k⟩

end Spread

end KeyRecovery.Decimal
