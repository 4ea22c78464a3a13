import KeyRecovery.Double

/-!
# Amounts of time

* `Seconds` : an amount of time, a whole number of any size or a double;
* `Seconds.toFloat?` : an amount as a double.
-/

namespace KeyRecovery

inductive Seconds
  | whole (n : Int)
  | real (x : Float)

def Seconds.toFloat? : Seconds → Option Float
  | .whole n => Double.ofInt? n
  | .real x => some x

end KeyRecovery
