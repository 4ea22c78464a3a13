import KeyRecovery.Text.Hex

/-!
# Text as bytes in UTF-8

* `Utf8.Lead`, `Utf8.lead?` : what the first byte of a character says about those behind it;
* `Utf8.tail` : the bytes that continue a character;
* `Utf8.decode` : the text that bytes stand for, or the first place where they stand for none.

A character takes the fewest bytes that hold it, and no surrogate is a character: the range of the
second byte, which the first byte fixes, rules out the rest.
-/

namespace KeyRecovery.Text.Utf8

/-- What the first byte of a character says: how many bytes continue it, the range of the next one,
and the bits that the first byte holds itself. -/
structure Lead where
  count : Nat
  low : UInt8
  high : UInt8
  bits : Nat

/-- The first byte of a character, if it is one. -/
def lead? (b : UInt8) : Option Lead :=
  if b < 0x80 then some ⟨0, 0x80, 0xbf, b.toNat⟩
  else if b < 0xc2 then none
  else if b < 0xe0 then some ⟨1, 0x80, 0xbf, b.toNat - 0xc0⟩
  else if b < 0xf0 then
    some ⟨2, if b = 0xe0 then 0xa0 else 0x80, if b = 0xed then 0x9f else 0xbf, b.toNat - 0xe0⟩
  else if b < 0xf5 then
    some ⟨3, if b = 0xf0 then 0x90 else 0x80, if b = 0xf4 then 0x8f else 0xbf, b.toNat - 0xf0⟩
  else none

/-- The bytes at the start that continue a character, at most `n`, the first of them from `low` to
`high`. -/
def tail : Nat → UInt8 → UInt8 → List UInt8 → List UInt8
  | n + 1, low, high, b :: rest =>
    if low ≤ b ∧ b ≤ high then b :: tail n 0x80 0xbf rest else []
  | _, _, _, _ => []

/-- The character that a first byte and the bytes behind it stand for. -/
def character (l : Lead) (more : List UInt8) : Char :=
  Char.ofNat (more.foldl (fun n b => n * 64 + (b.toNat - 0x80)) l.bits)

/-- Why bytes stand for no character. -/
inductive Reason
  /-- No character starts with such a byte. -/
  | start
  /-- Another byte should follow. -/
  | continuation
  | ended
  deriving DecidableEq, Repr

/-- The first place where bytes stand for no character, with the bytes read there. -/
structure Fault where
  reason : Reason
  place : Nat
  bytes : List UInt8
  deriving DecidableEq

def Reason.message : Reason → String
  | start => "invalid start byte"
  | continuation => "invalid continuation byte"
  | ended => "unexpected end of data"

/-- What is said about a fault: the byte if it is a single one, else where the bytes stand. -/
def Fault.message (f : Fault) : String :=
  "'utf-8' codec can't decode " ++
    (match f.bytes with
      | [b] =>
        "byte 0x" ++ String.ofList (Hex.digits 2 b.toNat) ++ " in position " ++ toString f.place
      | bytes =>
        "bytes in position " ++ toString f.place ++ "-" ++
          toString (f.place + bytes.length - 1)) ++
    ": " ++ f.reason.message

/-- The text that bytes stand for, of which the first is at a place. -/
def decodeFrom (place : Nat) : List UInt8 → Except Fault (List Char)
  | [] => .ok []
  | b :: rest =>
    match lead? b with
    | none => .error ⟨.start, place, [b]⟩
    | some l =>
      let more := tail l.count l.low l.high rest
      if more.length = l.count then
        (decodeFrom (place + 1 + more.length) (rest.drop more.length)).map (character l more :: ·)
      else if more.length = rest.length then .error ⟨.ended, place, b :: more⟩
      else .error ⟨.continuation, place, b :: more⟩
  termination_by bytes => bytes.length
  decreasing_by simp only [List.length_drop, List.length_cons]; omega

def decode (bytes : List UInt8) : Except Fault (List Char) := decodeFrom 0 bytes

end KeyRecovery.Text.Utf8
