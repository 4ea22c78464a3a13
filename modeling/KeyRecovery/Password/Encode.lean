import KeyRecovery.Password.Basic

/-!
# Writing recovery passwords

* `Block.encode` : the block of a short value, eleven times the value in six digits;
* `Password.encode` : the password of eight short values.

It is the writing direction of `Password.shortValues`, for short values below `2 ^ 16`. No check
digit is computed: the last digit of a multiple of eleven is the one that the others ask for.
-/

namespace KeyRecovery

namespace Block

/-- The last `w` decimal digits of a number, most significant first. -/
def decimals : Nat → Nat → List Char
  | 0, _ => []
  | w + 1, n => decimals w (n / 10) ++ [Nat.digitChar (n % 10)]

@[simp] theorem length_decimals (w n : Nat) : (decimals w n).length = w := by
  induction w generalizing n with
  | zero => rfl
  | succ w ih => simp [decimals, ih]

def encode (short : Nat) : List Char := decimals width (11 * short)

@[simp] theorem length_encode (short : Nat) : (encode short).length = width := length_decimals _ _

end Block

namespace Password

def encode (words : List Nat) : List Char := join (words.map Block.encode)

end Password

end KeyRecovery
