/-!
# White space

* `isBlank` : the characters that `trim` removes, in any script, with the four information
  separators U+001C to U+001F among them;
* `trim` : a text without its white space at both ends;
* `isAsciiGap` : the six ASCII white-space characters.

An ASCII gap is blank, but U+0085 or U+00A0 is blank and no ASCII gap.
-/

namespace KeyRecovery.Text

def isBlank (c : Char) : Bool :=
  let n := c.toNat
  (0x09 ≤ n && n ≤ 0x0d) || (0x1c ≤ n && n ≤ 0x20) || n == 0x85 || n == 0xa0 || n == 0x1680 ||
    (0x2000 ≤ n && n ≤ 0x200a) || n == 0x2028 || n == 0x2029 || n == 0x202f || n == 0x205f ||
    n == 0x3000

def isAsciiGap (c : Char) : Bool :=
  (0x09 ≤ c.toNat && c.toNat ≤ 0x0d) || c.toNat == 0x20

def trim (s : List Char) : List Char :=
  ((s.dropWhile isBlank).reverse.dropWhile isBlank).reverse

end KeyRecovery.Text
