import KeyRecovery.Memory.Workspace
import KeyRecovery.Session

/-!
# Sessions by name

* `Keyring` : any number of sessions over one memory, with named references, a clock and a log;
* `Keyring.GivenSalt` : a salt in a buffer of its own, or what a name stands for;
* `Keyring.Action`, `Keyring.perform` : what can be done with them. A session exists from its first
  use on, and may change even where an action fails.
-/

namespace KeyRecovery

/-- Sessions by name, over named references, with a clock, the number of rounds of the chain, and a log with its
threshold. -/
structure Keyring where
  workspace : Workspace
  sessions : NameTable Session
  clock : Float
  rounds : Nat
  threshold : Int
  log : List Log.Record

namespace Keyring

/-- No sessions, at the start of the clock. -/
def empty (rounds : Nat) (threshold : Int) : Keyring := ⟨.empty, [], 0, rounds, threshold, []⟩

/-- A salt: some bytes that nobody else refers to, or what a name stands for. -/
inductive GivenSalt
  | fresh (bytes : List UInt8)
  | named (name : String)

inductive Action
  | edit (a : Workspace.Action)
  | setClock (t : Float)
  /-- Gives a session a key that has a name. -/
  | unlock (session key : String) (ttl : Seconds)
  | unlockWithPassword (session : String) (password : Password.Raw) (salt : GivenSalt) (ttl : Seconds)
  /-- Asks a session for its key, and gives the key a name if one is wanted. -/
  | key (session : String) (name : Option String)
  | extend (session : String) (amount : Seconds)
  | lock (session : String)

inductive Answer
  | done
  | skipped
  /-- The bytes of a key. -/
  | key (bytes : List UInt8)

inductive Error
  | workspace (e : Workspace.Error)
  | session (e : SessionError)

/-- A session by name, locked if it was never used. -/
def session (k : Keyring) (name : String) : Session := (k.sessions.find? name).getD .closed

/-- The keyring after one session and the memory have changed. -/
def put (k : Keyring) (name : String) (m : Memory) (s : Session) : Keyring :=
  { k with workspace := { k.workspace with memory := m }
           sessions := NameTable.insert name s k.sessions }

/-- The answer of a session operation that returns nothing. -/
def settle (k : Keyring) (name : String) :
    Except SessionError Unit × Memory × Session → Except Error Answer × Keyring
  | (result, m, s) =>
    ((result.map fun _ => Answer.done).mapError .session, k.put name m s)

/-- Where a salt lies, and memory with it. -/
def findSalt (k : Keyring) : GivenSalt → Except Workspace.Error (Ref × Memory)
  | .fresh bytes =>
    let (id, m) := k.workspace.memory.allocAs true bytes
    .ok (.buffer id, m)
  | .named name => (k.workspace.find name).map fun r => (r, k.workspace.memory)

/-- Does an action. A session that is named for the first time exists from then on. -/
def perform (k : Keyring) : Action → Except Error Answer × Keyring
  | .edit a =>
    match k.workspace.perform a with
    | .error e => (.error (.workspace e), k)
    | .ok (changed, w) => (.ok (if changed then .done else .skipped), { k with workspace := w })
  | .setClock t => (.ok .done, { k with clock := t })
  | .unlock name key ttl =>
    let s := k.session name
    match k.workspace.find key with
    | .error e => (.error (.workspace e), k.put name k.workspace.memory s)
    | .ok r => k.settle name (s.unlock k.clock r ttl k.workspace.memory)
  | .unlockWithPassword name password salt ttl =>
    let s := k.session name
    match k.findSalt salt with
    | .error e => (.error (.workspace e), k.put name k.workspace.memory s)
    | .ok (r, m) =>
      let (log, called) := s.unlockWithPassword k.rounds k.threshold k.clock password.chars r ttl m
      { k with log := k.log ++ log }.settle name called
  | .key name wanted =>
    match (k.session name).key k.clock k.workspace.memory with
    | (.error e, m, s) => (.error (.session e), k.put name m s)
    | (.ok id, m, s) =>
      let k := k.put name m s
      let k := match wanted with
        | some n => { k with workspace := k.workspace.bind n (.buffer id) }
        | none => k
      (.ok (.key (m.bytes id)), k)
  | .extend name amount =>
    let s := k.session name
    match s.extend k.clock amount with
    | .error e => (.error (.session e), k.put name k.workspace.memory s)
    | .ok s => (.ok .done, k.put name k.workspace.memory s)
  | .lock name =>
    let (m, s) := (k.session name).lock k.workspace.memory
    (.ok .done, k.put name m s)

end Keyring

end KeyRecovery
