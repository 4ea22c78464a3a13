import KeyRecovery.Key.Chain
import KeyRecovery.Log
import KeyRecovery.Password.Packed

/-!
# Deriving the intermediate key

* `Key.text`, `Key.record` : a key as hex bytes with spaces, and the log record that shows one;
* `Derivation`, `derive` : a password is checked and packed, its key stretched from the packed bytes,
  and the packed bytes and the short values wiped, whatever happens;
* `deriveAndWipe` : a derived key is lent to a consumer and wiped afterwards.
-/

namespace KeyRecovery

namespace Key

def text (key : List UInt8) : List Char := Hex.dump [' '] key

def logger : String := "recoverykey.security.kdf"

def packedRecord (packed : List UInt8) : Log.Record :=
  ⟨.debug, logger, "Distilled password: '" ++ String.ofList (text packed) ++ "'"⟩

def record (key : List UInt8) : Log.Record :=
  ⟨.info, logger, "Intermediate recovery key:\n\t" ++ String.ofList (text key)⟩

/-- The records that pass a threshold when a key, if there is one, is shown. -/
def report (threshold : Int) (key : Option (List UInt8)) : List Log.Record :=
  (key.toList.map record).filter (Log.Record.keptAt threshold)

end Key

/-- Why no key is derived. -/
inductive DeriveError (ε : Type)
  | password (e : PasswordError)
  | packing (e : PackError)
  | chain (e : ChainError ε)

def DeriveError.message {ε : Type} (hashMessage : ε → String) : DeriveError ε → String
  | .password e => e.failure.message
  | .packing e => e.message
  | .chain e => e.message hashMessage

/-- The end of a derivation: the memory, the hash observer's state, the packed buffer with what it held
when the chain was given it, the short values as they are left, the log, and the key's buffer. -/
structure Derivation (σ ε : Type) where
  memory : Memory
  observer : σ
  packed : Option (BufferId × List UInt8)
  words : List Nat
  log : List Log.Record
  result : Except (DeriveError ε) BufferId

variable {σ ε γ : Type}

def derive (hash : Hasher σ ε) (n : Nat) (threshold : Int) (password : List Char) (salt : Ref)
    (m : Memory) (s : σ) : Derivation σ ε :=
  match Password.shortValues password with
  | .error e => ⟨m, s, none, [], [], .error (.password e)⟩
  | .ok words =>
    let wiped := words.map fun _ => 0
    match Packed.pack (words.map Int.ofNat) with
    | .error e => ⟨m, s, none, wiped, [], .error (.packing e)⟩
    | .ok bytes =>
      let (packed, m) := m.alloc bytes
      let log := [Key.packedRecord bytes].filter (Log.Record.keptAt threshold)
      let run := Chain.run hash n (.buffer packed) salt m s
      ⟨run.memory.zero packed, run.observer, some (packed, bytes), wiped, log,
        run.result.mapError .chain⟩

/-- The end of a key lent to a consumer: the memory, the key's buffer, if the consumer got one, the
log, and the consumer's answer. -/
structure Lending (ε γ : Type) where
  memory : Memory
  key : Option BufferId
  log : List Log.Record
  result : Except (DeriveError ε) γ

/-- Derives a key, lends it to a consumer and wipes it. The consumer may do to the buffer what it
likes, and its answer, be it a value or a failure, is passed on. -/
def deriveAndWipe (hash : Hasher σ ε) (n : Nat) (threshold : Int) (password : List Char)
    (salt : Ref) (m : Memory) (s : σ) (consumer : BufferId → Memory → γ × Memory) : Lending ε γ :=
  let d := derive hash n threshold password salt m s
  match d.result with
  | .error e => ⟨d.memory, none, d.log, .error e⟩
  | .ok key =>
    let (answer, m) := consumer key d.memory
    ⟨m.zero key, some key, d.log, .ok answer⟩

end KeyRecovery
