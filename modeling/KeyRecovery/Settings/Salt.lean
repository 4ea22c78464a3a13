import KeyRecovery.Text.Hex
import KeyRecovery.Text.Quoted

/-!
# Salts

A salt is sixteen bytes, given as hex text or as a file.

* `Salt.body` : a hex text without surrounding white space, `0x` in front, spaces and colons;
* `Salt.parse` : the salt that a text denotes;
* `Salt.ofFile` : the salt that the contents of a file are.
-/

namespace KeyRecovery

inductive SaltError
  | notHex (text : List Char)
  /-- The text denotes `length` bytes. -/
  | wrongLength (length : Nat)
  /-- The file holds `length` bytes. -/
  | wrongFileLength (length : Nat)
  deriving DecidableEq

namespace Salt

def length : Nat := 16

/-- Drops a leading `0x` or `0X`. -/
def dropMark : List Char → List Char
  | '0' :: 'x' :: rest | '0' :: 'X' :: rest => rest
  | s => s

def body (text : List Char) : List Char :=
  (dropMark (Text.trim text)).filter fun c => c != ' ' && c != ':'

def parse (text : List Char) : Except SaltError (List UInt8) :=
  match Hex.read? (body text) with
  | none => .error (.notHex text)
  | some salt => if salt.length = length then .ok salt else .error (.wrongLength salt.length)

def ofFile (contents : List UInt8) : Except SaltError (List UInt8) :=
  if contents.length = length then .ok contents else .error (.wrongFileLength contents.length)

end Salt

def SaltError.message : SaltError → String
  | .notHex text => "salt is not valid hex: " ++ Text.quoted text
  | .wrongLength n =>
    "salt must be " ++ toString Salt.length ++ " bytes (" ++ toString (Salt.length * 2) ++
      " hex digits), got " ++ toString n
  | .wrongFileLength n =>
    "salt file must hold exactly " ++ toString Salt.length ++ " bytes, got " ++ toString n

end KeyRecovery
