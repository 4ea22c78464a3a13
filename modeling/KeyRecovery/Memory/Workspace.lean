import KeyRecovery.Memory.Scrubbed
import KeyRecovery.Memory.Slice
import KeyRecovery.NameTable

/-!
# Named references

* `Workspace` : a memory and the names under which references into it are held;
* `Workspace.bind`, `Workspace.find` : giving a name, which drops what it stood for, and using it;
* `Workspace.Action`, `Workspace.perform` : what can be done with named references.

A named window pins its buffer as long as the name stands for it.
-/

namespace KeyRecovery

structure Workspace where
  memory : Memory
  names : NameTable Ref

namespace Workspace

def empty : Workspace := ⟨.empty, []⟩

def find? (w : Workspace) (name : String) : Option Ref := w.names.find? name

def bind (w : Workspace) (name : String) (r : Ref) : Workspace :=
  let m := w.memory.pin r
  let m := match w.find? name with
    | some old => m.unpin old
    | none => m
  ⟨m, NameTable.insert name r w.names⟩

def contents (w : Workspace) : List (String × List UInt8) :=
  w.names.map fun (name, r) => (name, w.memory.read r)

inductive Action
  /-- Names a new buffer. -/
  | make (frozen : Bool) (name : String) (bytes : List UInt8)
  /-- Names a window on what another name shows. -/
  | window (name source : String) (slice : Slice)
  /-- Wipes what a name shows, or nothing. -/
  | wipe (name : Option String)
  | append (name : String) (more : List UInt8)
  | store (name : String) (i v : Int)

inductive Error
  | unknown (name : String)
  | memory (e : MemoryError)

def find (w : Workspace) (name : String) : Except Error Ref :=
  match w.find? name with
  | some r => .ok r
  | none => .error (.unknown name)

/-- What a target given by name, if by any, stands for. -/
def findOptional (w : Workspace) : Option String → Except Error (Option Ref)
  | none => .ok none
  | some name => (w.find name).map some

/-- Performs an action. The answer tells whether anything was done; storing out of range is not. -/
def perform (w : Workspace) : Action → Except Error (Bool × Workspace)
  | .make frozen name bytes =>
    let (id, m) := w.memory.allocAs frozen bytes
    .ok (true, { w with memory := m }.bind name (.buffer id))
  | .window name source slice => do
    let r ← w.find source
    let v ← (w.memory.slice r slice).mapError .memory
    return (true, w.bind name v)
  | .wipe name => do
    let r ← w.findOptional name
    let m ← (w.memory.wipe r).mapError .memory
    return (true, { w with memory := m })
  | .append name more => do
    let r ← w.find name
    let m ← (w.memory.extend (some r) more).mapError .memory
    return (true, { w with memory := m })
  | .store name i v => do
    let r ← w.find name
    match ← (w.memory.store r i v).mapError .memory with
    | some m => return (true, { w with memory := m })
    | none => return (false, w)

end Workspace

end KeyRecovery
