/-!
# Memory for key material

* `Buffer`, `Memory` : byte strings that live side by side, each under a number of its own; a frozen
  buffer is never written, and a pinned one (shown by a live window) never changes its length;
* `Ref` : what a caller holds, a whole buffer or a window, that is a list of places in one;
* `Memory.read` : the bytes a reference shows;
* `Memory.alloc`, `Memory.store`, `Memory.resize` : new buffers, single bytes, new contents;
* `Memory.zero`, `Memory.wipe` : zeros over a whole buffer, and over what a reference shows.

Buffers are never removed, so a number given out once stays good.
-/

namespace KeyRecovery

/-- A byte string in memory. `pins` counts the live windows on it. -/
structure Buffer where
  bytes : List UInt8
  frozen : Bool
  pins : Nat
  deriving DecidableEq

abbrev BufferId := Nat

/-- What a caller holds of the memory. -/
inductive Ref
  | buffer (id : BufferId)
  /-- The bytes of a buffer at the given places, in that order. -/
  | window (id : BufferId) (places : List Nat)
  deriving DecidableEq

def Ref.id : Ref → BufferId
  | .buffer id => id
  | .window id _ => id

def Ref.isWindow : Ref → Bool
  | .buffer _ => false
  | .window _ _ => true

structure Memory where
  buffers : List Buffer
  deriving DecidableEq

inductive MemoryError
  /-- A frozen buffer cannot be wiped. -/
  | frozenBuffer
  /-- Nothing can be written through a window on a frozen buffer. -/
  | frozenWindow
  /-- The length of a buffer cannot change while a window shows it. -/
  | pinned
  /-- Only a writable buffer can be extended, or emptied if `clearing`. -/
  | fixedLength (holder : Option Ref) (clearing : Bool)
  /-- There is no buffer to write to. -/
  | nothing
  /-- A stored number is no byte; `inWindow` if it was to be stored through a window. -/
  | notByte (inWindow : Bool)
  | negativeLength
  /-- A length is no machine word. -/
  | unwieldyLength
  | noRoom
  | zeroStep
  /-- A view whose items are not bytes, or stand in no row or in several, cannot be written as a row of bytes. -/
  | otherItems
  | noDimension
  | manyDimensions
  deriving DecidableEq

def MemoryError.message : MemoryError → String
  | frozenBuffer => "cannot wipe immutable bytes; use a bytearray"
  | frozenWindow => "cannot modify read-only memory"
  | pinned => "Existing exports of data: object cannot be re-sized"
  | fixedLength holder clearing =>
    (match holder with
      | none => "'NoneType'"
      | some (.buffer _) => "'bytes'"
      | some (.window _ _) => "'memoryview'") ++
      " object has no attribute " ++ (if clearing then "'clear'" else "'extend'")
  | nothing => "object of type 'NoneType' has no len()"
  | notByte false => "byte must be in range(0, 256)"
  | notByte true => "memoryview: invalid value for format 'B'"
  | negativeLength => "negative count"
  | unwieldyLength => "cannot fit 'int' into an index-sized integer"
  | noRoom => ""
  | zeroStep => "slice step cannot be zero"
  | otherItems => "memoryview assignment: lvalue and rvalue have different structures"
  | noDimension => "invalid indexing of 0-dim memory"
  | manyDimensions => "memoryview slice assignments are currently restricted to ndim = 1"

namespace Memory

def empty : Memory := ⟨[]⟩

def bytes (m : Memory) (id : BufferId) : List UInt8 :=
  match m.buffers[id]? with
  | some b => b.bytes
  | none => []

def isFrozen (m : Memory) (id : BufferId) : Bool :=
  match m.buffers[id]? with
  | some b => b.frozen
  | none => false

def isPinned (m : Memory) (id : BufferId) : Bool :=
  match m.buffers[id]? with
  | some b => b.pins != 0
  | none => false

def read (m : Memory) : Ref → List UInt8
  | .buffer id => m.bytes id
  | .window id places => places.map fun i => (m.bytes id).getD i 0

/-- A new buffer, with its number. -/
def allocAs (frozen : Bool) (m : Memory) (bytes : List UInt8) : BufferId × Memory :=
  (m.buffers.length, ⟨m.buffers ++ [⟨bytes, frozen, 0⟩]⟩)

def alloc (m : Memory) (bytes : List UInt8) : BufferId × Memory := m.allocAs false bytes

/-- Changes the bytes of one buffer. -/
def update (m : Memory) (id : BufferId) (f : List UInt8 → List UInt8) : Memory :=
  ⟨m.buffers.modify id fun b => { b with bytes := f b.bytes }⟩

/-- Changes the number of windows on one buffer. -/
def repin (m : Memory) (id : BufferId) (f : Nat → Nat) : Memory :=
  ⟨m.buffers.modify id fun b => { b with pins := f b.pins }⟩

def pin (m : Memory) (r : Ref) : Memory :=
  if r.isWindow then m.repin r.id (· + 1) else m

def unpin (m : Memory) (r : Ref) : Memory :=
  if r.isWindow then m.repin r.id (· - 1) else m

/-- Writes `new` over the bytes of a buffer from `offset` on. -/
def overwrite (m : Memory) (id : BufferId) (offset : Nat) (new : List UInt8) : Memory :=
  m.update id fun old => old.take offset ++ new ++ old.drop (offset + new.length)

def zero (m : Memory) (id : BufferId) : Memory :=
  m.update id fun old => List.replicate old.length 0

/-- A byte string with zeros at the given places. -/
def zeroAt (places : List Nat) (bytes : List UInt8) : List UInt8 :=
  bytes.mapIdx fun i b => if places.contains i then 0 else b

/-- Zeros over what a reference shows; nothing happens without one. -/
def wipe (m : Memory) : Option Ref → Except MemoryError Memory
  | none => .ok m
  | some (.buffer id) => if m.isFrozen id then .error .frozenBuffer else .ok (m.zero id)
  | some (.window id places) =>
    if m.isFrozen id then .error .frozenWindow else .ok (m.update id (zeroAt places))

/-- Replaces the contents of a buffer; a new length needs that no window shows it. -/
def resize (m : Memory) (id : BufferId) (new : List UInt8) : Except MemoryError Memory :=
  if new.length ≠ (m.bytes id).length ∧ m.isPinned id then .error .pinned
  else .ok (m.update id fun _ => new)

/-- The place in its buffer of the `i`-th byte that a reference shows. -/
def place? (m : Memory) (r : Ref) (i : Int) : Option Nat :=
  if i < 0 then none
  else match r with
    | .buffer id => if i.toNat < (m.bytes id).length then some i.toNat else none
    | .window _ places => places[i.toNat]?

/-- Stores a byte as the `i`-th that a reference shows. A place out of range, or a frozen buffer
held as a whole, is left alone, which is answered by `none`. -/
def store (m : Memory) (r : Ref) (i v : Int) : Except MemoryError (Option Memory) :=
  if m.isFrozen r.id && !r.isWindow then .ok none
  else match m.place? r i with
    | none => .ok none
    | some p =>
      if m.isFrozen r.id then .error .frozenWindow
      else if v < 0 ∨ 255 < v then .error (.notByte r.isWindow)
      else .ok (some (m.update r.id (·.set p (UInt8.ofNat v.toNat))))

/-- The writable buffer that a reference is, if its length may be asked to change. -/
def growable? (m : Memory) (clearing : Bool) : Option Ref → Except MemoryError BufferId
  | some (.buffer id) =>
    if m.isFrozen id then .error (.fixedLength (some (.buffer id)) clearing) else .ok id
  | r => .error (.fixedLength r clearing)

def extend (m : Memory) (r : Option Ref) (more : List UInt8) : Except MemoryError Memory := do
  let id ← m.growable? false r
  m.resize id (m.bytes id ++ more)

def clear (m : Memory) (r : Option Ref) : Except MemoryError Memory := do
  let id ← m.growable? true r
  m.resize id []

end Memory

end KeyRecovery
