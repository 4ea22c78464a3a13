import KeyRecovery.Session

/-!
# Visits to a session

A session is asked again and again, each time at some moment and over the memory as it is then. Between
visits clients and other sessions may do to the memory what they like.

* `Visit`, `Visit.serve` : a request with its moment and memory, and what comes of it;
* `after` : the session after some visits;
* `Visit.offer?` : the key that a visit gives the session to hold, with its time to live;
* `unlock_accepted`, `unlock_refused` : the session after a key was given, by whether its time is accepted;
* `Visit.after_of_no_offer` : any other visit drops the key, moves its limit, or leaves the session as it is.
-/

namespace KeyRecovery.Session

/-- What a session can be asked. -/
inductive Request
  | unlock (key : Ref) (ttl : Seconds)
  | unlockWithPassword (rounds : Nat) (threshold : Int) (password : List Char) (salt : Ref) (ttl : Seconds)
  | key
  | extend (amount : Seconds)
  | lock

structure Visit where
  now : Float
  memory : Memory
  request : Request

/-- What a session answers a visit, with the memory and the session that it leaves. Only a request for the
key is answered by a buffer. -/
def Visit.serve (v : Visit) (s : Session) : Except SessionError (Option BufferId) × Memory × Session :=
  match v.request with
  | .unlock key ttl =>
    let (result, m, s) := s.unlock v.now key ttl v.memory
    (result.map fun _ => none, m, s)
  | .unlockWithPassword rounds threshold password salt ttl =>
    let (_, result, m, s) := s.unlockWithPassword rounds threshold v.now password salt ttl v.memory
    (result.map fun _ => none, m, s)
  | .key =>
    let (result, m, s) := s.key v.now v.memory
    (result.map some, m, s)
  | .extend amount =>
    match s.extend v.now amount with
    | .error e => (.error e, v.memory, s)
    | .ok s => (.ok none, v.memory, s)
  | .lock => (.ok none, s.lock v.memory)

def Visit.after (v : Visit) (s : Session) : Session := (v.serve s).2.2

def after (s : Session) (visits : List Visit) : Session := visits.foldl (fun s v => v.after s) s

@[simp] theorem after_nil (s : Session) : s.after [] = s := rfl

@[simp] theorem after_cons (s : Session) (v : Visit) (visits : List Visit) :
    s.after (v :: visits) = (v.after s).after visits := rfl

@[simp] theorem after_append (s : Session) (visits more : List Visit) :
    s.after (visits ++ more) = (s.after visits).after more := List.foldl_append

/-! ## Keys that are given -/

/-- A key given to a session, with its time to live, over the memory in which it lies. -/
structure Offer where
  key : Ref
  ttl : Seconds
  memory : Memory

/-- The key that a visit gives the session to hold. A password gives one only if one is derived. -/
def Visit.offer? (v : Visit) : Option Offer :=
  match v.request with
  | .unlock key ttl => some ⟨key, ttl, v.memory⟩
  | .unlockWithPassword rounds threshold password salt ttl =>
    let d := derive Sha256.hasher rounds threshold password salt v.memory ()
    match d.result with
    | .ok key => some ⟨.buffer key, ttl, d.memory⟩
    | .error _ => none
  | .key | .extend _ | .lock => none

theorem unlock_accepted {t : Float} {ttl : Seconds} (h : ttl.toFloat? = some t) (now : Float) (key : Ref)
    (m : Memory) (s : Session) :
    ∃ id, (s.unlock now key ttl m).2.2 = ⟨some id, some (now + t)⟩ := by
  unfold unlock
  simp only [h]
  exact ⟨_, rfl⟩

/-- A refused time to live leaves the key held all the same, under the limit of the key before if that is
the same buffer, else under none. -/
theorem unlock_refused {ttl : Seconds} (h : ttl.toFloat? = none) (now : Float) (key : Ref) (m : Memory)
    (s : Session) : ∃ id, (s.unlock now key ttl m).2.2 =
      ⟨some id, if s.held.map Ref.buffer = some key then s.expiry else none⟩ := by
  unfold unlock
  simp only [h]
  split <;> exact ⟨_, rfl⟩

theorem Visit.after_of_offer {v : Visit} {o : Offer} (h : v.offer? = some o) (s : Session) :
    v.after s = (s.unlock v.now o.key o.ttl o.memory).2.2 := by
  obtain ⟨now, m, request⟩ := v
  cases request with
  | unlock key ttl =>
    cases h
    rfl
  | unlockWithPassword rounds threshold password salt ttl =>
    simp only [offer?] at h
    split at h
    · next key hok =>
      cases h
      simp only [after, serve, unlockWithPassword, hok]
    · cases h
  | key | extend | lock => cases h

/-! ## One visit -/

/-- What a visit that gives no key does: it leaves the session as it is, drops the key, because it was asked
to or because the clock is past the limit, or moves the limit of a held key. -/
theorem Visit.after_of_no_offer {v : Visit} (h : v.offer? = none) (s : Session) :
    v.after s = s ∨ v.after s = closed ∨
      ∃ amount t, v.request = .extend amount ∧ amount.toFloat? = some t ∧ s.held.isSome ∧
        v.after s = { s with expiry := some (s.extensionBase v.now + t) } := by
  obtain ⟨now, m, request⟩ := v
  cases request with
  | unlock key ttl => cases h
  | unlockWithPassword rounds threshold password salt ttl =>
    simp only [offer?] at h
    split at h
    · cases h
    · next e herr =>
      left
      simp only [after, serve, unlockWithPassword, herr]
  | key =>
    simp only [after, serve, key]
    split
    · exact .inl rfl
    · split
      · exact .inr (.inl rfl)
      · exact .inl rfl
  | lock => exact .inr (.inl rfl)
  | extend amount =>
    simp only [after, serve]
    cases hs : s.extend now amount with
    | error e => exact .inl rfl
    | ok s' =>
      simp only [extend] at hs
      split at hs
      · cases hs
      · cases hs
      · next id t hheld hamount =>
        cases hs
        exact .inr (.inr ⟨amount, t, rfl, hamount, by rw [hheld]; rfl, rfl⟩)

end KeyRecovery.Session
