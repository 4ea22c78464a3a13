import KeyRecovery.Hash.Sha256
import KeyRecovery.Memory.Basic

/-!
# The key chain

The key is stretched from a packed password and a salt by a chain of hashes. The working state is
one buffer of 88 bytes: the hash of the packed password (32), the salt (16), the last hash (32, at
first zeros) and a 64-bit counter (at first zero). A round hashes the whole state, puts the result
in the place of the last hash and counts. The key is the last hash after the last round.

* `Hasher` : a hash with an observer's state, which may also fail;
* `Chain.rounds` : rounds on a working state in memory;
* `Chain.run` : the whole chain. The working state is wiped however it ends.
-/

namespace KeyRecovery

abbrev Hasher (σ ε : Type) := σ → List UInt8 → Except ε Digest × σ

/-- SHA-256, unobserved and without failures. -/
def Sha256.hasher : Hasher Unit Empty := fun s message => (.ok (Sha256.digest message), s)

inductive ChainError (ε : Type)
  /-- The packed password has `length` bytes instead of sixteen. -/
  | packedLength (length : Nat)
  | saltLength (length : Nat)
  | hash (e : ε)

/-- The end of a chain: the memory, the observer's state, the buffer that the chain worked in, if it
got that far, and the buffer that holds the key. -/
structure ChainRun (σ ε : Type) where
  memory : Memory
  observer : σ
  work : Option BufferId
  result : Except (ChainError ε) BufferId

namespace Chain

def packedLength : Nat := 16

def saltLength : Nat := 16

/-- Bytes of a hash, and of the key. -/
def digestLength : Nat := 32

def saltOffset : Nat := digestLength

def hashOffset : Nat := digestLength + saltLength

def counterOffset : Nat := hashOffset + digestLength

/-- Bytes of the working state. -/
def stateLength : Nat := counterOffset + 8

/-- The work factor: rounds of a chain. -/
def standardRounds : Nat := 0x100000

variable {σ ε : Type}

def rounds (hash : Hasher σ ε) (work : BufferId) : Nat → Nat → Memory → σ →
    Except ε Unit × Memory × σ
  | 0, _, m, s => (.ok (), m, s)
  | n + 1, count, m, s =>
    match hash s (m.bytes work) with
    | (.error e, s) => (.error e, m, s)
    | (.ok d, s) =>
      let m := m.overwrite work hashOffset d.bytes
      let m := m.overwrite work counterOffset (LittleEndian.encode 8 (count + 1))
      rounds hash work n (count + 1) m s

/-- The work of a chain in a zeroed buffer `work`. -/
def stretch (hash : Hasher σ ε) (n : Nat) (work : BufferId) (packed salt : Ref) (m : Memory)
    (s : σ) : Except ε BufferId × Memory × σ :=
  match hash s (m.read packed) with
  | (.error e, s) => (.error e, m, s)
  | (.ok d, s) =>
    let m := m.overwrite work 0 d.bytes
    let m := m.overwrite work saltOffset (m.read salt)
    match rounds hash work n 0 m s with
    | (.error e, m, s) => (.error e, m, s)
    | (.ok _, m, s) =>
      let (key, m) := m.alloc (((m.bytes work).drop hashOffset).take digestLength)
      (.ok key, m, s)

def run (hash : Hasher σ ε) (n : Nat) (packed salt : Ref) (m : Memory) (s : σ) : ChainRun σ ε :=
  if (m.read packed).length ≠ packedLength then
    ⟨m, s, none, .error (.packedLength (m.read packed).length)⟩
  else if (m.read salt).length ≠ saltLength then
    ⟨m, s, none, .error (.saltLength (m.read salt).length)⟩
  else
    let (work, m) := m.alloc (List.replicate stateLength 0)
    let (result, m, s) := stretch hash n work packed salt m s
    ⟨m.zero work, s, some work, result.mapError .hash⟩

end Chain

def ChainError.message {ε : Type} (hashMessage : ε → String) : ChainError ε → String
  | .packedLength n =>
    "distilled key must be " ++ toString Chain.packedLength ++ " bytes, got " ++ toString n
  | .saltLength n =>
    "salt must be " ++ toString Chain.saltLength ++ " bytes, got " ++ toString n
  | .hash e => hashMessage e

end KeyRecovery
