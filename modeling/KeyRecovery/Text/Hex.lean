import KeyRecovery.Text.Blank

/-!
# Hexadecimal text

* `Hex.digits w n` : the low `w` hex digits of `n`, lowercase, most significant first;
* `Hex.byte`, `Hex.dump` : one byte as two digits, many bytes with a separator between them;
* `Hex.digit?`, `Hex.read?` : reading, in either case of letter, with ASCII white space allowed
  between the pairs and never inside one.

`Hex.read?` undoes `Hex.dump` for the empty separator.
-/

namespace KeyRecovery.Hex

/-- The low `w` hexadecimal digits of a number. -/
def digits : Nat → Nat → List Char
  | 0, _ => []
  | w + 1, n => digits w (n / 16) ++ [Nat.digitChar (n % 16)]

def byte (b : UInt8) : List Char :=
  [Nat.digitChar (b.toNat / 16), Nat.digitChar (b.toNat % 16)]

def dump (sep : List Char) (bytes : List UInt8) : List Char :=
  sep.intercalate (bytes.map byte)

def digit? (c : Char) : Option Nat :=
  if '0' ≤ c ∧ c ≤ '9' then some (c.toNat - 48)
  else if 'a' ≤ c ∧ c ≤ 'f' then some (c.toNat - 87)
  else if 'A' ≤ c ∧ c ≤ 'F' then some (c.toNat - 55)
  else none

/-- The byte that a pair of digits stands for. -/
def pair? (high low : Char) : Option UInt8 :=
  match digit? high, digit? low with
  | some h, some l => some (UInt8.ofNat (16 * h + l))
  | _, _ => none

def read? : List Char → Option (List UInt8)
  | [] => some []
  | [c] => if Text.isAsciiGap c then some [] else none
  | c :: d :: rest =>
    if Text.isAsciiGap c then read? (d :: rest)
    else match pair? c d with
      | some b => (read? rest).map (b :: ·)
      | none => none

end KeyRecovery.Hex
