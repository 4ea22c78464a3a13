/-!
# The bits of doubles

* `Double.binade`, `Double.signBit`, `Double.infinityBits` : the parts of the bits of a double;
* `Double.ofNat?`, `Double.ofInt?` : the double nearest to a whole number, ties to the even
  neighbour; none for a number that rounds beyond the largest double.
-/

namespace KeyRecovery

namespace Double

/-- How many doubles there are from a power of two up to the next: what one more in the exponent adds to
the bits of a double. -/
def binade : Nat := 0x10000000000000

def signBit : Nat := 0x8000000000000000

/-- The bits of the double nearest to a positive number: 53 digits of it, rounded, with the biased
exponent above them. A carry out of the digits moves into the exponent. -/
def bitsOfPos (n : Nat) : Nat :=
  let top := n.log2
  let digits :=
    if top ≤ 52 then n <<< (52 - top)
    else
      let unit := 1 <<< (top - 52)
      let q := n / unit
      let r := n % unit
      if unit < 2 * r ∨ (unit = 2 * r ∧ q % 2 = 1) then q + 1 else q
  (top + 1022) * binade + digits

def infinityBits : Nat := 0x7ff * binade

def ofNat? (n : Nat) : Option Float :=
  if n = 0 then some (Float.ofBits 0)
  else if infinityBits ≤ bitsOfPos n then none
  else some (Float.ofBits (UInt64.ofNat (bitsOfPos n)))

def ofInt? : Int → Option Float
  | .ofNat n => ofNat? n
  | .negSucc n => (ofNat? (n + 1)).map (- ·)

end Double

end KeyRecovery
