import KeyRecovery.Text.Numeral

/-!
# Decimals as they are written

* `Decimal.written?` : the decimal at the start of a text: a sign or none, digits of any script, and a point
  with more digits behind it, or with none, or no point;
* `Decimal.value` : the double nearest to such a decimal.
-/

namespace KeyRecovery.Decimal

/-- Whether a character is a decimal digit of some script. -/
def isDigit (c : Char) : Bool := (Text.decimalValue? c).isSome

def written? (s : List Char) : Option (List Char) :=
  let sign := if s.head? = some '-' then ['-'] else []
  let whole := (s.drop sign.length).takeWhile isDigit
  let point :=
    match s.drop (sign.length + whole.length) with
    | '.' :: rest => '.' :: rest.takeWhile isDigit
    | _ => []
  if whole.isEmpty then none else some (sign ++ whole ++ point)

/-- The double nearest to a written decimal; one that is too large is infinite, and zero has a sign. -/
def value (s : List Char) : Float :=
  let digits := (Text.decimal? (s.filter isDigit)).getD 0
  let places := ((s.dropWhile (· ≠ '.')).filter isDigit).length
  let size := Float.ofScientific digits true places
  if s.head? = some '-' then -size else size

end KeyRecovery.Decimal
