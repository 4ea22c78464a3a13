import KeyRecovery.Key.Derivation
import KeyRecovery.Seconds

/-!
# Sessions

A session holds one key in memory, with the moment at which it expires. The key is wiped when it is
locked, replaced, or found to be expired.

* `Session.lock` : wipes and drops the key;
* `Session.unlock` : takes a key, adopting a writable buffer and copying anything else;
* `Session.unlockWithPassword` : derives a key and takes it, with the log of the derivation;
* `Session.key` : the key, unless the session is locked or expired;
* `Session.extend` : moves the moment of expiry.
-/

namespace KeyRecovery

/-- A session: the buffer that holds its key, and when the key expires. -/
structure Session where
  held : Option BufferId
  expiry : Option Float

inductive SessionError
  | locked
  /-- Its key was past its time and has been wiped. -/
  | expired
  /-- An amount of time is too large for a double. -/
  | tooLong
  | derive (e : DeriveError Empty)

def SessionError.message : SessionError → String
  | locked => "Session is locked"
  | expired => "Session expired and was locked"
  | tooLong => "int too large to convert to float"
  | derive e => e.message Empty.elim

namespace Session

def closed : Session := ⟨none, none⟩

def isUnlocked (s : Session) : Bool := s.held.isSome

/-- How long a key is held if nobody says otherwise. -/
def standardTtl : Seconds := .whole 300

def wiped (m : Memory) (s : Session) : Memory :=
  match s.held with
  | some id => m.zero id
  | none => m

def lock (m : Memory) (s : Session) : Memory × Session := (s.wiped m, closed)

/-- The buffer in which a given key is kept: itself if it is a writable buffer, else a copy. -/
def adopt (m : Memory) (key : Ref) : BufferId × Memory :=
  match key with
  | .buffer id => if m.isFrozen id then m.alloc (m.bytes id) else (id, m)
  | .window _ _ => m.alloc (m.read key)

/-- Takes a key for `ttl` seconds from `now` on. Only the very buffer that is held is spared the wipe, and the key
is held before the amount is looked at. -/
def unlock (now : Float) (key : Ref) (ttl : Seconds) (m : Memory) (s : Session) :
    Except SessionError Unit × Memory × Session :=
  let (m, s) := if s.held.map Ref.buffer = some key then (m, s) else s.lock m
  let (id, m) := adopt m key
  let s := { s with held := some id }
  match ttl.toFloat? with
  | none => (.error .tooLong, m, s)
  | some t => (.ok (), m, { s with expiry := some (now + t) })

/-- Derives the key of a password and takes it. The old key is not touched before there is a new one. -/
def unlockWithPassword (n : Nat) (threshold : Int) (now : Float) (password : List Char) (salt : Ref)
    (ttl : Seconds) (m : Memory) (s : Session) :
    List Log.Record × Except SessionError Unit × Memory × Session :=
  let d := KeyRecovery.derive Sha256.hasher n threshold password salt m ()
  match d.result with
  | .error e => (d.log, .error (.derive e), d.memory, s)
  | .ok key => (d.log, unlock now (.buffer key) ttl d.memory s)

/-- The key, if there is one that has not expired; an expired one is wiped and dropped. -/
def key (now : Float) (m : Memory) (s : Session) : Except SessionError BufferId × Memory × Session :=
  match s.held with
  | none => (.error .locked, m, s)
  | some id =>
    if s.expiry.any (· < now) then
      let (m, s) := s.lock m
      (.error .expired, m, s)
    else (.ok id, m, s)

/-- The moment that an extension counts from: the expiry if it is set and not zero, else now. -/
def extensionBase (now : Float) (s : Session) : Float :=
  match s.expiry with
  | some t => if t == 0 then now else t
  | none => now

def extend (now : Float) (amount : Seconds) (s : Session) : Except SessionError Session :=
  match s.held, amount.toFloat? with
  | none, _ => .error .locked
  | some _, none => .error .tooLong
  | some _, some t => .ok { s with expiry := some (s.extensionBase now + t) }

end Session

end KeyRecovery
