import KeyRecovery.Bytes.LittleEndian
import KeyRecovery.Password.Basic

/-!
# Packed short values

The eight short values of a password, each as two bytes, least significant first, make up the
sixteen bytes that the key is stretched from.

* `Packed.pack` : from short values to bytes, refusing a wrong count and values outside sixteen bits;
* `Packed.unpack` : from bytes to short values, refusing a wrong length.
-/

namespace KeyRecovery

inductive PackError
  /-- There are `count` values instead of eight. -/
  | count (count : Nat)
  /-- `value` is the first that does not fit sixteen bits. -/
  | range (value : Int)
  /-- There are `length` bytes instead of sixteen. -/
  | size (length : Nat)
  deriving DecidableEq

namespace Packed

/-- Bytes in a packed password. -/
def size : Nat := Password.blockCount * 2

def fits (n : Int) : Bool := 0 ≤ n && n < 0x10000

/-- The words as bytes, two a word. -/
def bytes (words : List Nat) : List UInt8 := words.flatMap (LittleEndian.encode 2)

/-- Bytes as words, two a word; an odd last byte is left out. -/
def words : List UInt8 → List Nat
  | low :: high :: rest => LittleEndian.decode [low, high] :: words rest
  | _ => []

def pack (values : List Int) : Except PackError (List UInt8) :=
  if values.length ≠ Password.blockCount then .error (.count values.length)
  else match values.find? (!fits ·) with
    | some n => .error (.range n)
    | none => .ok (bytes (values.map Int.toNat))

def unpack (packed : List UInt8) : Except PackError (List Nat) :=
  if packed.length ≠ size then .error (.size packed.length) else .ok (words packed)

end Packed

/-- What is said about a failed packing. A value beyond 64 bits is not even compared with the limits. -/
def PackError.message : PackError → String
  | .count n =>
    "expected " ++ toString Password.blockCount ++ " short values, got " ++ toString n
  | .range n =>
    "short value out of range: " ++
      if -0x8000000000000000 ≤ n ∧ n < 0x8000000000000000 then "ushort format requires 0 <= number <= 65535"
      else "argument out of range"
  | .size n => "expected " ++ toString Packed.size ++ " bytes, got " ++ toString n

end KeyRecovery
