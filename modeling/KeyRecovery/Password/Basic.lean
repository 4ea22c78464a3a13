import KeyRecovery.Password.Block

/-!
# Recovery passwords

A password is eight blocks of six digits with one character between neighbours, 55 characters in
all. What stands between the blocks is not looked at.

* `Password.split`, `Password.join` : a text cut at the fixed places, and blocks joined by hyphens;
* `Password.shortValues` : the eight short values, or the first block that is bad;
* `Password.ofBytes` : a byte string read as text;
* `PasswordError.failure` : what is reported about a rejected password.
-/

namespace KeyRecovery

inductive PasswordError
  /-- It has `length` characters instead of 55. -/
  | length (length : Nat)
  /-- A block of it is bad. -/
  | block (error : BlockError)
  deriving DecidableEq

namespace Password

def blockCount : Nat := 8

/-- The character written between blocks. -/
def separator : Char := '-'

def length : Nat := blockCount * Block.width + blockCount - 1

/-- Distance between the starts of neighbouring blocks. -/
def stride : Nat := Block.width + 1

def split (password : List Char) : List (List Char) :=
  (List.range blockCount).map fun i => (password.drop (i * stride)).take Block.width

def join (blocks : List (List Char)) : List Char := [separator].intercalate blocks

/-- The short values of consecutive blocks, the first of them at `place`. -/
def shortValuesFrom (place : Int) : List (List Char) → Except BlockError (List Nat)
  | [] => .ok []
  | b :: rest => do
    let n ← Block.shortValue place b
    let ns ← shortValuesFrom (place + 1) rest
    return n :: ns

def shortValues (password : List Char) : Except PasswordError (List Nat) :=
  if password.length ≠ length then .error (.length password.length)
  else (shortValuesFrom 1 (split password)).mapError .block

/-- A byte string as text: one character a byte, U+FFFD for every byte outside ASCII. -/
def ofBytes (bytes : List UInt8) : List Char :=
  bytes.map fun b => if b < 128 then Char.ofNat b.toNat else '\ufffd'

/-- A password as it is given: a text, or a byte string. -/
inductive Raw
  | text (s : List Char)
  | bytes (b : List UInt8)

/-- The characters of a password. -/
def Raw.chars : Raw → List Char
  | text s => s
  | bytes b => ofBytes b

end Password

def PasswordError.failure : PasswordError → Failure
  | .length n =>
    ⟨.wrongLength, "Wrong length " ++ toString n ++ " (Has to be " ++ toString Password.length ++ ")",
      none, none⟩
  | .block e => e.failure

end KeyRecovery
