import KeyRecovery.Keyring
import KeyRecovery.Proofs.Session.Call

/-!
# Released keys are zero, and nothing else is touched

* `Workspace.Held w`, `Held.perform` : the names of a workspace stand for buffers that exist, whatever is
  done with them;
* `Keyring.Reachable` : the keyrings that calls, edits and clients lead to, from the empty one;
* `Keyring.Sound`, `Keyring.sound` : their sessions hold their keys in writable buffers;
* `Keyring.perform_call` : an action on a session is a call of that session alone;
* `Keyring.released_zero` : so what it holds no more is zero, and all else is as before.
-/

namespace KeyRecovery

open Memory (Frame SameKinds)

namespace Workspace

def Held (w : Workspace) : Prop := ∀ name r, w.find? name = some r → w.memory.Holds r.id

theorem find?_bind (w : Workspace) (name other : String) (r : Ref) :
    (w.bind name r).find? other = if other = name then some r else w.find? other :=
  NameTable.find?_insert w.names name other r

theorem held_bind {w : Workspace} (hw : w.Held) {r : Ref} (hr : w.memory.Holds r.id) (name : String) :
    (w.bind name r).Held := by
  have hgrows := SameKinds.bind w name r
  intro other r' h
  rw [find?_bind] at h
  split at h
  · exact Option.some.inj h ▸ hgrows.holds hr
  · exact hgrows.holds (hw other r' h)

theorem held_memory {w : Workspace} (hw : w.Held) {m : Memory} (h : SameKinds w.memory m) :
    Held { w with memory := m } := fun name r hr => h.holds (hw name r hr)

theorem id_slice {m : Memory} {r v : Ref} {s : Slice} (h : m.slice r s = .ok v) : v.id = r.id := by
  cases r with
  | buffer id =>
    obtain ⟨places, -, h⟩ := Memory.exists_of_bind_ok h
    cases h
    rfl
  | window id shown =>
    obtain ⟨places, -, h⟩ := Memory.exists_of_bind_ok h
    cases h
    rfl

theorem find?_of_find {w : Workspace} {name : String} {r : Ref} (h : w.find name = .ok r) :
    w.find? name = some r := by
  unfold find at h
  split at h
  · next heq => cases h; exact heq
  · cases h

theorem Held.perform {w w' : Workspace} (hw : w.Held) {a : Action} {changed : Bool}
    (h : w.perform a = .ok (changed, w')) : w'.Held := by
  have hkinds := SameKinds.perform h
  cases a with
  | make frozen name bytes =>
    cases h
    exact held_bind (r := .buffer _) (held_memory hw (SameKinds.allocAs frozen w.memory bytes))
      (Memory.holds_allocAs frozen w.memory bytes) name
  | window name source slice =>
    obtain ⟨r, hr, h⟩ := Memory.exists_of_bind_ok h
    obtain ⟨v, hv, h⟩ := Memory.exists_of_bind_ok h
    cases h
    refine held_bind hw ?_ name
    rw [id_slice (Memory.eq_ok_of_mapError_ok hv)]
    exact hw source r (find?_of_find hr)
  | wipe name =>
    obtain ⟨r, -, h⟩ := Memory.exists_of_bind_ok h
    obtain ⟨m, -, h⟩ := Memory.exists_of_bind_ok h
    cases h
    exact held_memory hw hkinds
  | append name more =>
    obtain ⟨r, -, h⟩ := Memory.exists_of_bind_ok h
    obtain ⟨m, -, h⟩ := Memory.exists_of_bind_ok h
    cases h
    exact held_memory hw hkinds
  | store name i v =>
    obtain ⟨r, -, h⟩ := Memory.exists_of_bind_ok h
    obtain ⟨found, -, h⟩ := Memory.exists_of_bind_ok h
    cases found with
    | none => cases h; exact hw
    | some m => cases h; exact held_memory hw hkinds

end Workspace

namespace Keyring

/-- The session that an action is a call of. -/
def Action.session? : Action → Option String
  | .unlock name _ _ | .unlockWithPassword name _ _ _ | .key name _ | .extend name _ | .lock name =>
    some name
  | .edit _ | .setClock _ => none

/-- The keyrings that actions lead to, from the empty one, and those that differ from them by what clients
did to bytes and references of theirs. Clients may do what they like, but no buffer freezes or thaws. -/
inductive Reachable : Keyring → Prop
  | empty (rounds : Nat) (threshold : Int) : Reachable (.empty rounds threshold)
  | perform {k : Keyring} (a : Action) (hk : Reachable k) : Reachable (k.perform a).2
  | client {k : Keyring} (w : Workspace) (hk : Reachable k)
      (hm : SameKinds k.workspace.memory w.memory) (hw : w.Held) : Reachable { k with workspace := w }

structure Sound (k : Keyring) : Prop where
  names : k.workspace.Held
  keys : ∀ name, (k.session name).Sound k.workspace.memory

theorem session_put (k : Keyring) (name other : String) (m : Memory) (s : Session) :
    (k.put name m s).session other = if other = name then s else k.session other := by
  simp only [session, put, NameTable.find?_insert]
  split <;> rfl

/-! ## One action -/

/-- A call of the session `name` leads from `k` to `k'`. -/
structure Called (k k' : Keyring) (name : String) : Prop where
  call : Session.Call k.workspace.memory (k.session name) k'.workspace.memory (k'.session name)
  names : k'.workspace.Held
  others : ∀ other, other ≠ name → k'.session other = k.session other

section Called

variable {k : Keyring} {name : String}

theorem called_put (hk : k.Sound) {m : Memory} {s : Session}
    (h : Session.Call k.workspace.memory (k.session name) m s) : Called k (k.put name m s) name := by
  refine ⟨?_, Workspace.held_memory hk.names h.wipes.toSameKinds, fun other hne => ?_⟩
  · rw [session_put, if_pos rfl]
    exact h
  · rw [session_put, if_neg hne]

/-- A name for a held key changes no more than the number of windows. -/
theorem Called.bind {k' : Keyring} (h : Called k k' name) (hk : k.Sound) {r : Ref}
    (hr : k'.workspace.memory.Holds r.id) (n : String) :
    Called k { k' with workspace := k'.workspace.bind n r } name :=
  ⟨h.call.then_frame (Frame.bind k'.workspace n r _) (SameKinds.bind k'.workspace n r)
    (hk.keys name), Workspace.held_bind h.names hr n, h.others⟩

end Called

/-- A salt that is found exists, and no older buffer has changed. -/
theorem findSalt_kept {k : Keyring} (hk : k.workspace.Held) {salt : GivenSalt} {r : Ref} {m : Memory}
    (h : k.findSalt salt = .ok (r, m)) :
    Frame k.workspace.memory m (fun _ => False) ∧ SameKinds k.workspace.memory m ∧ m.Holds r.id := by
  cases salt with
  | fresh bytes =>
    cases h
    exact ⟨Frame.allocAs true _ bytes _, SameKinds.allocAs true _ bytes, Memory.holds_allocAs true _ bytes⟩
  | named name =>
    simp only [findSalt] at h
    cases hr : k.workspace.find name with
    | error e =>
      rw [hr] at h
      cases h
    | ok r' =>
      rw [hr] at h
      cases h
      exact ⟨Frame.refl _ _, SameKinds.refl _, hk name r (Workspace.find?_of_find hr)⟩

theorem perform_call {k : Keyring} (hk : k.Sound) {a : Action} {name : String}
    (ha : a.session? = some name) : Called k (k.perform a).2 name := by
  have hs := hk.keys name
  cases a with
  | edit a => cases ha
  | setClock t => cases ha
  | unlock name key ttl =>
    cases ha
    simp only [perform]
    split
    · exact called_put hk (.idle hs rfl)
    · next r hr =>
      have hr' := hk.names key r (Workspace.find?_of_find hr)
      exact called_put hk (Session.unlock_call k.clock r ttl hs hr')
  | unlockWithPassword name password salt ttl =>
    cases ha
    simp only [perform]
    split
    · exact called_put hk (.idle hs rfl)
    · next r m heq =>
      obtain ⟨hframe, hkinds, hr⟩ := findSalt_kept hk.names heq
      have hcall := Session.unlockWithPassword_call k.clock ttl k.rounds k.threshold password.chars
        (hs.sameKinds hkinds) hr
      have hput := called_put hk (hcall.after_frame hframe hkinds hs)
      exact ⟨hput.call, hput.names, hput.others⟩
  | key name wanted =>
    cases ha
    have hcall := Session.key_call k.clock hs
    simp only [perform]
    split
    · next e m s heq =>
      rw [heq] at hcall
      exact called_put hk hcall
    · next id m s heq =>
      have hheld := Session.held_key (by rw [heq])
      rw [heq] at hcall
      have hput := called_put hk hcall
      cases wanted with
      | none => exact hput
      | some n =>
        refine hput.bind hk (r := .buffer id) ?_ n
        exact hcall.wipes.holds (hs id hheld.1).1
  | extend name amount =>
    cases ha
    simp only [perform]
    split
    · exact called_put hk (.idle hs rfl)
    · next s heq => exact called_put hk (Session.extend_call hs heq)
  | lock name =>
    cases ha
    exact called_put hk (Session.lock_call k.workspace.memory (k.session name))

/-! ## All keyrings -/

theorem Called.sound {k k' : Keyring} {name : String} (h : Called k k' name) (hk : k.Sound) :
    k'.Sound := by
  refine ⟨h.names, fun other => ?_⟩
  by_cases hne : other = name
  · subst hne
    exact h.call.sound
  · rw [h.others other hne]
    exact (hk.keys other).sameKinds h.call.wipes.toSameKinds

theorem sound_client {k : Keyring} (hk : k.Sound) {w : Workspace}
    (hm : SameKinds k.workspace.memory w.memory) (hw : w.Held) :
    Sound { k with workspace := w } := ⟨hw, fun name => (hk.keys name).sameKinds hm⟩

theorem Sound.perform {k : Keyring} (hk : k.Sound) (a : Action) : (k.perform a).2.Sound := by
  cases hs : a.session? with
  | some name => exact (perform_call hk hs).sound hk
  | none =>
    cases a with
    | edit a =>
      simp only [Keyring.perform]
      split
      · exact hk
      · next changed w hw => exact sound_client hk (SameKinds.perform hw) (hk.names.perform hw)
    | setClock t => exact ⟨hk.names, hk.keys⟩
    | unlock | unlockWithPassword | key | extend | lock => cases hs

theorem Reachable.sound {k : Keyring} (h : Reachable k) : k.Sound := by
  induction h with
  | empty rounds threshold =>
    exact ⟨fun _ _ hr => (nomatch hr), fun _ => Session.sound_closed _⟩
  | perform a _ ih => exact ih.perform a
  | client w _ hm hw ih => exact sound_client ih hm hw

/-- **What a session lets go of is zero, and nothing else is touched.** In any keyring that actions and
clients lead to, after an action on the session `name`, whether it fails or not: a buffer that the session
held and holds no more is zero in all its bytes, of which there are as many as before; every other buffer
has the bytes it had; and every other session has its key and its expiry. -/
theorem released_zero {k : Keyring} (hk : Reachable k) {a : Action} {name : String}
    (ha : a.session? = some name) :
    let k' := (k.perform a).2
    (∀ b, (k.session name).held = some b → (k'.session name).held ≠ some b →
      k'.workspace.memory.bytes b = List.replicate (k.workspace.memory.bytes b).length 0) ∧
    (∀ b, k.workspace.memory.Holds b → (k.session name).held ≠ some b →
      k'.workspace.memory.bytes b = k.workspace.memory.bytes b) ∧
    ∀ other, other ≠ name → k'.session other = k.session other := by
  intro k'
  have h : Called k k' name := perform_call hk.sound ha
  exact ⟨h.call.released, h.call.frame.bytes, h.others⟩

/-- Two sessions that hold the same buffer, of which one is then given a window on it. -/
theorem released_zero_shared :
    let run (actions : List Action) := actions.foldl (fun k a => (perform k a).2) (.empty 1 20)
    let k := run [.edit (.make false "key" [7, 8, 9]), .edit (.make true "salt" [1, 2]),
      .edit (.window "back" "key" ⟨none, none, some (-1)⟩), .unlock "a" "key" (.real 60),
      .unlock "b" "key" (.real 60)]
    let k' := (k.perform (.unlock "a" "back" (.real 60))).2
    (k.session "a").held = some 0 ∧ (k.session "b").held = some 0 ∧ (k'.session "a").held = some 2 ∧
      k'.workspace.memory.bytes 0 = [0, 0, 0] ∧ k'.workspace.memory.bytes 1 = [1, 2] ∧
      k'.session "b" = k.session "b" := by
  intro run k k'
  have hk : Reachable k := (((((Reachable.empty 1 20).perform _).perform _).perform _).perform _).perform _
  have ha : (k.session "a").held = some 0 := by decide +kernel
  have ha' : (k'.session "a").held = some 2 := by decide +kernel
  have hcall : (Action.unlock "a" "back" (.real 60)).session? = some "a" := rfl
  obtain ⟨hzero, hframe, hothers⟩ := released_zero hk hcall
  refine ⟨ha, by decide +kernel, ha', ?_, ?_, hothers "b" (by decide)⟩
  · rw [hzero 0 ha (by rw [ha']; decide)]
    decide +kernel
  · have hsalt : 1 < k.workspace.memory.buffers.length := by decide +kernel
    rw [hframe 1 hsalt (by rw [ha]; decide)]
    decide +kernel

end Keyring

end KeyRecovery
