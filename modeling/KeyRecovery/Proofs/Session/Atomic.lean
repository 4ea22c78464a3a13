import KeyRecovery.Proofs.Key.Reference
import KeyRecovery.Proofs.Session.Keyring
import Mathlib.Algebra.Order.Ring.Int

/-!
# Calls that fail change nothing

* `Session.unlockRecorded`, `fst_unlockRecorded` : unlocking by password with the calls of the hash written down,
  and that it is unlocking by password;
* `Session.unlockRecorded_of_rejected`, `unlockRecorded_of_saltLength` : what is hashed if no key is derived;
* `Session.unlockWithPassword_underived` : and what is left then;
* `Session.extend_eq_error_iff` : when a limit is not moved;
* `Keyring.Unchanged` : no session, name or existing buffer of a keyring has changed;
* `Keyring.failed_unchanged` : so it is after a call that derives no key, or moves no limit.
-/

namespace KeyRecovery

open Memory (Frame SameKinds)

namespace Session

def unlockRecorded (n : Nat) (threshold : Int) (now : Float) (password : List Char) (salt : Ref) (ttl : Seconds)
    (m : Memory) (s : Session) :
    (List Log.Record × Except SessionError Unit × Memory × Session) × List (Chain.Call Empty) :=
  let d := derive (Chain.recorded Sha256.hasher) n threshold password salt m ((), [])
  (match d.result with
    | .error e => (d.log, .error (.derive e), d.memory, s)
    | .ok key => (d.log, unlock now (.buffer key) ttl d.memory s), d.observer.2)

section Unlock

variable (n : Nat) (threshold : Int) (now : Float) {password : List Char} {salt : Ref} (ttl : Seconds) {m : Memory} (s : Session)

theorem fst_unlockRecorded (password : List Char) (salt : Ref) (m : Memory) :
    (s.unlockRecorded n threshold now password salt ttl m).1 = s.unlockWithPassword n threshold now password salt ttl m := by
  unfold unlockRecorded unlockWithPassword
  rw [← forget_derive Sha256.hasher n threshold password salt m ()]
  rfl

theorem unlockRecorded_of_rejected {e : PasswordError} (h : Password.shortValues password = .error e) :
    s.unlockRecorded n threshold now password salt ttl m = (([], .error (.derive (.password e)), m, s), []) := by
  unfold unlockRecorded
  rw [derive_of_rejected _ n _ salt m _ h]

theorem unlockRecorded_of_saltLength {ns : List Nat} (h : Password.shortValues password = .ok ns)
    (hs : m.Holds salt.id) (hsl : (m.read salt).length ≠ 16) :
    (s.unlockRecorded n threshold now password salt ttl m).1.2.1 =
        .error (.derive (.chain (.saltLength (m.read salt).length))) ∧
      (s.unlockRecorded n threshold now password salt ttl m).2 = [] := by
  obtain ⟨hfail, hcalls⟩ := derive_of_saltLength (Chain.recorded Sha256.hasher) n threshold salt m ((), [])
    h hs hsl
  unfold unlockRecorded
  simp only [hfail, hcalls, and_self]

theorem unlock_ne_derive (key : Ref) (m : Memory) (e : DeriveError Empty) :
    (s.unlock now key ttl m).1 ≠ .error (.derive e) := by
  unfold unlock
  simp only
  split <;> nofun

theorem unlockWithPassword_underived {e : DeriveError Empty}
    (h : (s.unlockWithPassword n threshold now password salt ttl m).2.1 = .error (.derive e)) :
    (s.unlockWithPassword n threshold now password salt ttl m).2.2.1 =
        (derive Sha256.hasher n threshold password salt m ()).memory ∧
      (s.unlockWithPassword n threshold now password salt ttl m).2.2.2 = s := by
  unfold unlockWithPassword at h ⊢
  simp only at h ⊢
  split at h
  · exact ⟨rfl, rfl⟩
  · exact absurd h (unlock_ne_derive now ttl s _ _ e)

end Unlock

theorem extend_eq_error_iff (now : Float) (amount : Seconds) (s : Session) :
    (∃ e, s.extend now amount = .error e) ↔ s.held = none ∨ amount.toFloat? = none := by
  unfold extend
  cases s.held <;> cases amount.toFloat? <;> simp

end Session

namespace Keyring

/-- From `k` to `k'` no session and no existing buffer has changed, nor what any name stands for; the key of
each session is the same buffer with the same bytes. There may be new buffers. -/
structure Unchanged (k k' : Keyring) : Prop where
  sessions : ∀ name, k'.session name = k.session name
  names : k'.workspace.names = k.workspace.names
  kinds : SameKinds k.workspace.memory k'.workspace.memory
  bytes : ∀ id, k.workspace.memory.Holds id → k'.workspace.memory.bytes id = k.workspace.memory.bytes id
  keys : ∀ name b, (k.session name).held = some b →
    (k'.session name).held = some b ∧ k'.workspace.memory.bytes b = k.workspace.memory.bytes b

theorem session_put_same (k : Keyring) (name : String) (m : Memory) (other : String) :
    (k.put name m (k.session name)).session other = k.session other := by
  rw [session_put]
  split
  · next h => rw [h]
  · rfl

theorem unchanged_put {k : Keyring} (hk : k.Sound) (name : String) {m : Memory}
    (hf : Frame k.workspace.memory m fun _ => False) (hkinds : SameKinds k.workspace.memory m) :
    Unchanged k (k.put name m (k.session name)) := by
  have hsession := session_put_same k name m
  refine ⟨hsession, rfl, hkinds, fun id hid => hf.bytes id hid not_false, fun other b hb => ⟨?_, ?_⟩⟩
  · rw [hsession]
    exact hb
  · exact hf.bytes b (hk.keys other b hb).1 not_false

theorem settle_eq_error_iff {k : Keyring} {name : String} {x : Except SessionError Unit × Memory × Session}
    {e : SessionError} : (k.settle name x).1 = .error (.session e) ↔ x.1 = .error e := by
  obtain ⟨result, m, s⟩ := x
  cases result <;> simp [settle, Except.map, Except.mapError]

/-- A call that derives no key, over a memory in which there may be new buffers already. -/
theorem unchanged_settle {k : Keyring} (hk : k.Sound) {name : String} {n : Nat} {threshold : Int} {now : Float}
    {password : List Char} {salt : Ref} {ttl : Seconds} {m : Memory} {e : DeriveError Empty}
    (hf : Frame k.workspace.memory m fun _ => False) (hkinds : SameKinds k.workspace.memory m)
    (hs : m.Holds salt.id)
    (h : (k.settle name ((k.session name).unlockWithPassword n threshold now password salt ttl m).2).1 =
      .error (.session (.derive e))) :
    Unchanged k (k.settle name ((k.session name).unlockWithPassword n threshold now password salt ttl m).2).2 := by
  obtain ⟨hm, hsession⟩ :=
    Session.unlockWithPassword_underived n threshold now ttl (k.session name) (settle_eq_error_iff.1 h)
  have hd := derive_kept Sha256.hasher n threshold password salt m () hs
  have hdk := sameKinds_derive Sha256.hasher n threshold password salt m () hs
  simp only [settle]
  rw [hm, hsession]
  exact unchanged_put hk name (hf.trans hd.1) (hkinds.trans hdk)

theorem unchanged_unlock {k : Keyring} (hk : k.Sound) {name : String} {password : Password.Raw}
    {salt : GivenSalt} {ttl : Seconds} {e : DeriveError Empty}
    (h : (k.perform (.unlockWithPassword name password salt ttl)).1 = .error (.session (.derive e))) :
    Unchanged k (k.perform (.unlockWithPassword name password salt ttl)).2 := by
  simp only [perform] at h ⊢
  split at h
  · cases h
  · next r m heq =>
    obtain ⟨hframe, hkinds, hr⟩ := findSalt_kept hk.names heq
    have hun := unchanged_settle hk hframe hkinds hr h
    exact ⟨hun.sessions, hun.names, hun.kinds, hun.bytes, hun.keys⟩

theorem perform_extend_error_iff {k : Keyring} {name : String} {amount : Seconds} :
    (∃ e, (k.perform (.extend name amount)).1 = .error e) ↔
      (k.session name).held = none ∨ amount.toFloat? = none := by
  rw [← Session.extend_eq_error_iff k.clock]
  simp only [perform]
  cases (k.session name).extend k.clock amount <;> simp

theorem perform_extend_of_error {k : Keyring} {name : String} {amount : Seconds} {e : Error}
    (h : (k.perform (.extend name amount)).1 = .error e) :
    (k.perform (.extend name amount)).2 = k.put name k.workspace.memory (k.session name) := by
  simp only [perform] at h ⊢
  split at h
  · rfl
  · cases h

/-- **Calls that fail change nothing.** In any keyring that actions and clients lead to:

* unlocking a session by a rejected password, whatever the salt, fails for that reason, without a call of the
  hash, and by an accepted one with a salt of another length for this one;
* if no key is derived, nothing is changed, be the salt some bytes, something with a name, or anything that
  exists;
* moving a limit fails just if no key is held or the amount is too large for a double, and then every session
  and the whole memory are as before. -/
theorem failed_unchanged {k : Keyring} (hk : Reachable k) (name : String) (password : Password.Raw) {salt : Ref}
    (hsalt : k.workspace.memory.Holds salt.id) (ttl amount : Seconds) :
    let s := k.session name
    let m := k.workspace.memory
    let call := s.unlockRecorded k.rounds k.threshold k.clock password.chars salt ttl m
    let unlocked := k.settle name (s.unlockWithPassword k.rounds k.threshold k.clock password.chars salt ttl m).2
    let extended := k.perform (.extend name amount)
    call.1 = s.unlockWithPassword k.rounds k.threshold k.clock password.chars salt ttl m ∧
    (∀ e, Password.shortValues password.chars = .error e →
      unlocked.1 = .error (.session (.derive (.password e))) ∧ call.2 = []) ∧
    (∀ ns, Password.shortValues password.chars = .ok ns → (m.read salt).length ≠ 16 →
      unlocked.1 = .error (.session (.derive (.chain (.saltLength (m.read salt).length)))) ∧ call.2 = []) ∧
    (∀ e, unlocked.1 = .error (.session (.derive e)) → Unchanged k unlocked.2) ∧
    (∀ e given, (k.perform (.unlockWithPassword name password given ttl)).1 = .error (.session (.derive e)) →
      Unchanged k (k.perform (.unlockWithPassword name password given ttl)).2) ∧
    ((∃ e, extended.1 = .error e) ↔ s.held = none ∨ amount.toFloat? = none) ∧
    (∀ e, extended.1 = .error e →
      extended.2.workspace = k.workspace ∧ ∀ other, extended.2.session other = k.session other) := by
  intro s m call unlocked extended
  have hcall : call.1 = _ := Session.fst_unlockRecorded k.rounds k.threshold k.clock ttl s password.chars salt m
  refine ⟨hcall, fun e he => ?_, fun ns hns hsl => ?_, fun e he => ?_, fun e given he => ?_, ?_,
    fun e he => ?_⟩
  · have h : call = _ := Session.unlockRecorded_of_rejected k.rounds k.threshold k.clock ttl s he
    refine ⟨settle_eq_error_iff.2 ?_, by rw [h]⟩
    rw [← hcall, h]
  · obtain ⟨hfail, hcalls⟩ := Session.unlockRecorded_of_saltLength k.rounds k.threshold k.clock ttl s hns hsalt hsl
    exact ⟨settle_eq_error_iff.2 (hcall ▸ hfail), hcalls⟩
  · exact unchanged_settle hk.sound (Frame.refl m _) (SameKinds.refl m) hsalt he
  · exact unchanged_unlock hk.sound he
  · exact perform_extend_error_iff
  · have h : extended.2 = _ := perform_extend_of_error he
    rw [h]
    exact ⟨rfl, session_put_same k name _⟩

/-- A session that is given its own key as salt, which is too short, and then more time than there is. -/
theorem failed_unchanged_shared :
    let p := Password.encode [12345, 100, 54321, 7, 65535, 1000, 4242, 31337]
    let run (actions : List Action) := actions.foldl (fun k a => (perform k a).2) (.empty 1 20)
    let k := run [.edit (.make false "key" [7, 8, 9]), .unlock "a" "key" (.real 60)]
    let unlocked := k.settle "a" ((k.session "a").unlockWithPassword k.rounds k.threshold k.clock p (.buffer 0)
      (.real 5) k.workspace.memory).2
    let extended := k.perform (.extend "a" (.whole (2 ^ 1024)))
    unlocked.1 = .error (.session (.derive (.chain (.saltLength 3)))) ∧
      unlocked.2.session "a" = k.session "a" ∧ (k.session "a").held = some 0 ∧
      unlocked.2.workspace.memory.bytes 0 = [7, 8, 9] ∧ (∃ e, extended.1 = .error e) ∧
      extended.2.session "a" = k.session "a" := by
  intro p run k unlocked extended
  have hk : Reachable k := ((Reachable.empty 1 20).perform _).perform _
  have hsalt : k.workspace.memory.Holds (Ref.buffer 0).id := by
    show 0 < k.workspace.memory.buffers.length
    decide +kernel
  have hp : Password.shortValues p = .ok [12345, 100, 54321, 7, 65535, 1000, 4242, 31337] :=
    Password.shortValues_encode rfl (by decide)
  have hlen : (k.workspace.memory.read (.buffer 0)).length = 3 := by decide +kernel
  have hheld : (k.session "a").held = some 0 := by decide +kernel
  obtain ⟨-, -, hshort, hleft, -, hrefused, hkept⟩ :=
    failed_unchanged hk "a" (.text p) hsalt (.real 5) (.whole (2 ^ 1024))
  have hfail : unlocked.1 = _ := (hshort _ hp (by rw [hlen]; decide)).1
  rw [hlen] at hfail
  have hun : Unchanged k unlocked.2 := hleft _ hfail
  obtain ⟨e, he⟩ := hrefused.2 (.inr (by decide +kernel))
  refine ⟨hfail, hun.sessions "a", hheld, ?_, ⟨e, he⟩, (hkept e he).2 "a"⟩
  rw [(hun.keys "a" 0 hheld).2]
  decide +kernel

end Keyring

end KeyRecovery
