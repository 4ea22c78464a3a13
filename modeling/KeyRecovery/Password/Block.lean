import KeyRecovery.Failure
import KeyRecovery.Text.Quoted

/-!
# Blocks of a recovery password

A block is six ASCII digits. It is good when its value is a multiple of eleven below
`11 * 2 ^ 16` and its sixth digit is the alternating sum of the others modulo eleven; its short
value is the value over eleven.

* `Block.normalize` : a number brought into `[0, modulus)` by repeated addition and subtraction;
* `Block.checkDigit?` : the alternating sum of the first five characters modulo eleven;
* `Block.shortValue` : the short value of a good block, or the first rule a bad one breaks;
* `BlockError.failure` : what is reported about a bad block.
-/

namespace KeyRecovery

/-- The rule that a block breaks. -/
inductive BlockFault
  | notSixDigits
  | notMultiple
  | tooLarge
  /-- The sixth digit is not the one the others ask for. -/
  | wrongCheckDigit
  deriving DecidableEq, Repr

/-- A rejected block: the rule it breaks, its place in the password, counted from one, and its text. -/
structure BlockError where
  fault : BlockFault
  place : Int
  digits : List Char
  deriving DecidableEq

namespace Block

def width : Nat := 6

/-- The value that every block lies below. -/
def limit : Nat := 0x10000 * 11

/-- The value of an ASCII digit; other characters continue the count. -/
def digitValue (c : Char) : Int := (c.toNat : Int) - 48

/-- The number that ASCII digits denote. -/
def value (digits : List Char) : Nat :=
  digits.foldl (fun n c => 10 * n + (c.toNat - 48)) 0

/-- Adds the modulus until the number is not negative. -/
def raise (modulus : Nat) (pos : 0 < modulus) (n : Int) : Int :=
  if n < 0 then raise modulus pos (n + modulus) else n
termination_by (-n).toNat

/-- Subtracts the modulus until the number is below it. -/
def lower (modulus : Nat) (pos : 0 < modulus) (n : Int) : Int :=
  if (modulus : Int) ≤ n then lower modulus pos (n - modulus) else n
termination_by n.toNat

def normalize (modulus : Nat) (pos : 0 < modulus) (n : Int) : Int :=
  lower modulus pos (raise modulus pos n)

def checkDigit? : List Char → Option Int
  | a :: b :: c :: d :: e :: _ =>
    some (normalize 11 (by decide)
      (digitValue a - digitValue b + digitValue c - digitValue d + digitValue e))
  | _ => none

def isSixDigits (s : List Char) : Bool := s.length == width && s.all Char.isDigit

/-- The first rule that a block breaks. -/
def fault? (digits : List Char) : Option BlockFault :=
  if !isSixDigits digits then some .notSixDigits
  else if value digits % 11 ≠ 0 then some .notMultiple
  else if limit ≤ value digits then some .tooLarge
  else if checkDigit? digits ≠ (digits[5]?).map digitValue then some .wrongCheckDigit
  else none

def shortValue (place : Int) (digits : List Char) : Except BlockError Nat :=
  match fault? digits with
  | some fault => .error ⟨fault, place, digits⟩
  | none => .ok (value digits / 11)

end Block

namespace BlockError

/-- The kind of failure a broken rule counts as. -/
def kind (e : BlockError) : FailureKind :=
  match e.fault with
  | .notSixDigits => .malformed
  | .notMultiple | .wrongCheckDigit => .checksum
  | .tooLarge => .outOfRange

/-- What is said about the broken rule. -/
def reason (e : BlockError) : String :=
  match e.fault with
  | .notSixDigits => "It has to be " ++ toString Block.width ++ " digits."
  | .notMultiple => "It has to be divisible by 11."
  | .tooLarge => "It has to be less than 2**16 * 11 (" ++ toString Block.limit ++ ")."
  | .wrongCheckDigit => "Check digit mismatch."

/-- How a rejected block is shown: quoted if it is no number, else by its value. -/
def shown (e : BlockError) : String :=
  match e.fault with
  | .notSixDigits => Text.quoted e.digits
  | _ => toString (Block.value e.digits)

def message (e : BlockError) : String :=
  "Block n°" ++ toString e.place ++ " (" ++ e.shown ++ ") invalid. " ++ e.reason

def failure (e : BlockError) : Failure :=
  ⟨e.kind, e.message, some e.place, some e.digits⟩

end BlockError

end KeyRecovery
