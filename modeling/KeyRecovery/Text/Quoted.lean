import KeyRecovery.Text.Hex
import KeyRecovery.Text.Printable

/-!
# Quoted text

* `Quoted.mark` : the quotation mark a text is shown in;
* `Quoted.escape` : how one character is written between the marks;
* `Quoted.quote` : a text as messages show it.

A text is shown between apostrophes, or between double quotes when it holds an apostrophe and no
double quote. The mark in use and the backslash are written after a backslash, line feed, carriage
return and tabulator by name, and any other unprintable character by its code in two, four or
eight hex digits.
-/

namespace KeyRecovery.Text

namespace Quoted

def apostrophe : Char := '\x27'

def doubleQuote : Char := '\x22'

def backslash : Char := '\x5c'

def mark (s : List Char) : Char :=
  if s.contains apostrophe && !s.contains doubleQuote then doubleQuote else apostrophe

def escape (m : Char) (c : Char) : List Char :=
  if c = m ∨ c = backslash then [backslash, c]
  else if c = '\n' then [backslash, 'n']
  else if c = '\r' then [backslash, 'r']
  else if c = '\t' then [backslash, 't']
  else if isPrintable c then [c]
  else if c.toNat < 0x100 then backslash :: 'x' :: Hex.digits 2 c.toNat
  else if c.toNat < 0x10000 then backslash :: 'u' :: Hex.digits 4 c.toNat
  else backslash :: 'U' :: Hex.digits 8 c.toNat

def quote (s : List Char) : List Char :=
  let m := mark s
  m :: s.flatMap (escape m) ++ [m]

end Quoted

def quoted (s : List Char) : String := String.ofList (Quoted.quote s)

end KeyRecovery.Text
