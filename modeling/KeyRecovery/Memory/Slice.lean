import KeyRecovery.Memory.Basic

/-!
# Slices

A slice of a sequence of length `n` is given by a start, a stop and a step, each of which may be
missing or negative. A negative start or stop counts from the end; what lies outside is brought to
the nearest end.

* `Slice.bounds` : the start and the stop, completed and brought into range;
* `Slice.count` : how many places lie between them at the step;
* `Slice.places` : those places, in order;
* `Ref.slice` : the window that a slice of a reference is.
-/

namespace KeyRecovery

structure Slice where
  start : Option Int
  stop : Option Int
  step : Option Int

namespace Slice

/-- A position counted from the end if negative, brought into `[low, high]`. -/
def clamp (n low high : Int) (i : Int) : Int :=
  max low (min high (if i < 0 then i + n else i))

def bounds (s : Slice) (n step : Int) : Int × Int :=
  if 0 < step then
    ((s.start.map (clamp n 0 n)).getD 0, (s.stop.map (clamp n 0 n)).getD n)
  else
    ((s.start.map (clamp n (-1) (n - 1))).getD (n - 1),
      (s.stop.map (clamp n (-1) (n - 1))).getD (-1))

def count (start stop step : Int) : Nat :=
  if 0 < step then ((stop - start + step - 1) / step).toNat
  else ((start - stop - step - 1) / (-step)).toNat

def places (s : Slice) (n : Nat) : Except MemoryError (List Nat) :=
  let step := s.step.getD 1
  if step = 0 then .error .zeroStep
  else
    let (start, stop) := s.bounds n step
    .ok ((List.range (count start stop step)).map fun (i : Nat) => (start + (i : Int) * step).toNat)

end Slice

def Memory.slice (m : Memory) (r : Ref) (s : Slice) : Except MemoryError Ref := do
  match r with
  | .buffer id =>
    let places ← s.places (m.bytes id).length
    return .window id places
  | .window id shown =>
    let places ← s.places shown.length
    return .window id (places.map fun i => shown.getD i 0)

end KeyRecovery
