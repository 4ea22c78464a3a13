import KeyRecovery.Memory.Basic

/-!
# Buffers that are wiped on leaving

* `View`, `Holding` : views of any layout, and what a caller holds: nothing, a reference, or such a view;
* `Memory.wipeHeld` : wiping what is held;
* `Memory.scrubbed` : hands a buffer to a body and wipes it when the body ends, however it ends; if
  the wipe is refused, its error takes the place of the body's;
* `ScrubTarget` : a length, for a fresh buffer of zeros, or what the caller holds already;
* `Edit`, `Edit.runAll` : a small language of bodies.
-/

namespace KeyRecovery

/-- A view on the bytes at some places of a buffer that is no window of it: it cannot be written through, or its
items stand in no row or in several dimensions, or they are not bytes. -/
structure View where
  id : BufferId
  places : List Nat
  shape : List Nat
  readOnly : Bool
  byteItems : Bool
  irregular : readOnly = true ∨ shape.length ≠ 1 ∨ byteItems = false

inductive Holding
  | nothing
  | ref (r : Ref)
  | view (v : View)

/-- A reference to the bytes that are shown. -/
def Holding.shown? : Holding → Option Ref
  | nothing => none
  | ref r => some r
  | view v => some (.window v.id v.places)

inductive ScrubTarget
  /-- A fresh buffer of zeros of this length. -/
  | length (n : Int)
  | held (h : Holding)

/-- Why a scrubbed body did not end normally. -/
inductive ScrubError (ε : Type)
  | memory (e : MemoryError)
  | body (e : ε)

/-- The end of a scrubbed body: the memory after the wipe, what the body was given, if it was entered at all,
and its result. -/
structure Scrubbed (ε α : Type) where
  memory : Memory
  given : Option Holding
  result : Except (ScrubError ε) α

namespace Memory

/-- Lengths of buffers are machine words: from here on, and below its negative, there are none. -/
def wordLimit : Int := 0x8000000000000000

def isReadOnly (m : Memory) (v : View) : Bool := v.readOnly || m.isFrozen v.id

/-- Why a view cannot be written as a row of bytes. -/
def viewError (m : Memory) (v : View) : MemoryError :=
  if m.isReadOnly v then .frozenWindow
  else match v.shape with
    | [] => .noDimension
    | [_] => .otherItems
    | _ :: _ :: _ => .manyDimensions

def wipeHeld (m : Memory) : Holding → Except MemoryError Memory
  | .nothing => m.wipe none
  | .ref r => m.wipe (some r)
  | .view v => .error (m.viewError v)

/-- What a target stands for, where there is room for buffers of length `room`. -/
def target (room : Nat) (m : Memory) : ScrubTarget → Except MemoryError (Holding × Memory)
  | .length n =>
    if n < -wordLimit ∨ wordLimit ≤ n then .error .unwieldyLength
    else if n < 0 then .error .negativeLength
    else if room < n then .error .noRoom
    else
      let (id, m) := m.alloc (List.replicate n.toNat 0)
      .ok (.ref (.buffer id), m)
  | .held h => .ok (h, m)

def scrubbed {ε α : Type} (room : Nat) (m : Memory) (t : ScrubTarget)
    (body : Holding → Memory → Except ε α × Memory) : Scrubbed ε α :=
  match m.target room t with
  | .error e => ⟨m, none, .error (.memory e)⟩
  | .ok (h, m) =>
    let (result, m) := body h m
    match m.wipeHeld h with
    | .error e => ⟨m, some h, .error (.memory e)⟩
    | .ok m => ⟨m, some h, result.mapError .body⟩

end Memory

inductive Edit
  /-- Stores a byte; a place out of range is skipped. Only a negative one can be out of the range of
  nothing. -/
  | store (i v : Int)
  | extend (more : List UInt8)
  | clear
  | fail

inductive EditError
  | memory (e : MemoryError)
  | gaveUp

/-- How a number is stored through a view, by its items. -/
abbrev ItemStore := View → Int → Int → Memory → Except MemoryError Memory

namespace Edit

def run (items : ItemStore) (h : Holding) (m : Memory) : Edit → Except EditError Memory
  | .store i v =>
    match h with
    | .nothing => if i < 0 then .ok m else .error (.memory .nothing)
    | .ref r => ((m.store r i v).map (·.getD m)).mapError .memory
    | .view shown => (items shown i v m).mapError .memory
  | .extend more => (m.extend h.shown? more).mapError .memory
  | .clear => (m.clear h.shown?).mapError .memory
  | .fail => .error .gaveUp

/-- Edits in order, up to the first that fails; those before it stay done. -/
def runAll (items : ItemStore) (h : Holding) : List Edit → Memory → Except EditError Unit × Memory
  | [], m => (.ok (), m)
  | e :: rest, m =>
    match e.run items h m with
    | .error err => (.error err, m)
    | .ok m => runAll items h rest m

/-- A body of edits that answers with the bytes on entry and at its end. -/
def body (items : ItemStore) (edits : List Edit) (h : Holding) (m : Memory) :
    Except EditError (Option (List UInt8) × Option (List UInt8)) × Memory :=
  let before := h.shown?.map m.read
  let (result, m) := runAll items h edits m
  (result.map fun _ => (before, h.shown?.map m.read), m)

end Edit

end KeyRecovery
