import KeyRecovery.Proofs.Key.Derivation
import KeyRecovery.Session

/-!
# What the calls of a session do to memory

* `Sound m s` : the key that session `s` holds lies in a writable buffer of `m`;
* `Safe m s m' s'` : from `m` to `m'` memory is only wiped, and what `s` holds but not `s'` is zero;
* `Call m s m' s'` : what every call keeps: a safe way on which only the buffer that `s` held is wiped;
* `lock_call`, `unlock_call`, `unlockWithPassword_call`, `key_call`, `extend_call` : each operation is such
  a call;
* `held_unlock`, `held_key` : which buffer is held afterwards.
-/

namespace KeyRecovery.Session

open Memory (Frame SameKinds Wipes)

def Sound (m : Memory) (s : Session) : Prop :=
  ∀ b, s.held = some b → m.Holds b ∧ m.isFrozen b = false

theorem sound_closed (m : Memory) : Sound m closed := fun _ h => nomatch h

/-- A key stays where it is while no buffer is lost or frozen. -/
theorem Sound.sameKinds {m m' : Memory} {s : Session} (hs : Sound m s) (h : SameKinds m m') :
    Sound m' s := fun b hb =>
  ⟨h.holds (hs b hb).1, (h.frozen b (hs b hb).1).trans (hs b hb).2⟩

/-- From `m` and `s` to `m'` and `s'` memory is only wiped, and what `s` held and `s'` holds no more is
wiped indeed. -/
structure Safe (m : Memory) (s : Session) (m' : Memory) (s' : Session) : Prop where
  wipes : Wipes m m'
  sound : Sound m' s'
  released : ∀ b, s.held = some b → s'.held ≠ some b →
    m'.bytes b = List.replicate (m.bytes b).length 0

namespace Safe

variable {m m' m'' : Memory} {s s' s'' : Session}

theorem refl (hs : Sound m s) : Safe m s m s :=
  ⟨Wipes.refl m, hs, fun _ hb hb' => absurd hb hb'⟩

theorem trans (h : Safe m s m' s') (h' : Safe m' s' m'' s'') (hs : Sound m s) : Safe m s m'' s'' := by
  refine ⟨h.wipes.trans h'.wipes, h'.sound, fun b hb hb'' => ?_⟩
  have hid := (hs b hb).1
  by_cases hb' : s'.held = some b
  · rw [h'.released b hb' hb'', h.wipes.length hid]
  · exact h'.wipes.zeros (h.wipes.holds hid) (h.released b hb hb')

end Safe

structure Call (m : Memory) (s : Session) (m' : Memory) (s' : Session) : Prop extends
    Safe m s m' s' where
  frame : Frame m m' fun b => s.held = some b

namespace Call

variable {m m' m'' : Memory} {s s' s'' : Session}

/-- A call that changes no more than the time. -/
theorem idle (hs : Sound m s) (h : s'.held = s.held) : Call m s m s' :=
  ⟨⟨Wipes.refl m, fun b hb => hs b (h ▸ hb), fun _ hb hb' => absurd (h.trans hb) hb'⟩,
    Frame.refl m _⟩

/-- A call after something that wrote only new buffers. -/
theorem after_frame (h : Call m' s m'' s') (hf : Frame m m' fun _ => False) (hk : SameKinds m m')
    (hs : Sound m s) : Call m s m'' s' := by
  refine ⟨⟨(Wipes.of_frame hf hk).trans h.wipes, h.sound, fun b hb hb' => ?_⟩,
    (hf.mono fun _ _ hW => hW.elim).trans h.frame⟩
  rw [h.released b hb hb', hf.bytes b (hs b hb).1 not_false]

/-- A call before something that wrote only new buffers. -/
theorem then_frame (h : Call m s m' s') (hf : Frame m' m'' fun _ => False) (hk : SameKinds m' m'')
    (hs : Sound m s) : Call m s m'' s' := by
  refine ⟨⟨h.wipes.trans (Wipes.of_frame hf hk), h.sound.sameKinds hk, fun b hb hb' => ?_⟩,
    h.frame.trans (hf.mono fun _ _ hW => hW.elim)⟩
  rw [hf.bytes b (h.frame.holds (hs b hb).1) not_false, h.released b hb hb']

end Call

variable {m : Memory} {s : Session}

/-! ## Locking -/

theorem frame_wiped (m : Memory) (s : Session) :
    Frame m (s.wiped m) fun b => s.held = some b := by
  unfold wiped
  split
  · next id hid => exact (Frame.zero m id).mono fun b _ hb => hb ▸ hid
  · exact Frame.refl m _

theorem isFrozen_wiped (m : Memory) (s : Session) (id : BufferId) :
    (s.wiped m).isFrozen id = m.isFrozen id := by
  unfold wiped
  split
  · exact Memory.isFrozen_zero m _ id
  · rfl

theorem bytes_wiped {b : BufferId} (hb : s.held = some b) :
    (s.wiped m).bytes b = List.replicate (m.bytes b).length 0 := by
  simp only [wiped, hb]
  rw [Memory.bytes_zero, if_pos rfl]

theorem wipes_wiped (m : Memory) (s : Session) : Wipes m (s.wiped m) := by
  unfold wiped
  split
  · exact Wipes.zero m _
  · exact Wipes.refl m

theorem lock_call (m : Memory) (s : Session) : Call m s (s.lock m).1 (s.lock m).2 :=
  ⟨⟨wipes_wiped m s, sound_closed _, fun _ hb _ => bytes_wiped hb⟩, frame_wiped m s⟩

/-! ## Unlocking -/

/-- The buffer in which a key is kept is writable, and no older buffer is changed for it. -/
theorem adopt_kept {key : Ref} (hk : m.Holds key.id) :
    Frame m (adopt m key).2 (fun _ => False) ∧ SameKinds m (adopt m key).2 ∧
      (adopt m key).2.Holds (adopt m key).1 ∧
      (adopt m key).2.isFrozen (adopt m key).1 = false := by
  have copy (b : List UInt8) : Frame m (m.alloc b).2 (fun _ => False) ∧
      SameKinds m (m.alloc b).2 ∧ (m.alloc b).2.Holds (m.alloc b).1 ∧
      (m.alloc b).2.isFrozen (m.alloc b).1 = false := by
    refine ⟨Frame.alloc m b _, SameKinds.allocAs false m b, Memory.holds_allocAs false m b, ?_⟩
    rw [Memory.isFrozen_alloc]
    exact Memory.isFrozen_of_not_holds (Nat.lt_irrefl _)
  cases key with
  | window id places => exact copy _
  | buffer id =>
    unfold adopt
    simp only
    split
    · exact copy _
    · next hf => exact ⟨Frame.refl m _, SameKinds.refl m, hk, by simpa using hf⟩

section Unlock

variable (now : Float) (key : Ref) (ttl : Seconds)

theorem unlock_same (h : s.held.map Ref.buffer = some key) :
    (s.unlock now key ttl m).2.1 = (adopt m key).2 ∧
      (s.unlock now key ttl m).2.2.held = some (adopt m key).1 := by
  unfold unlock
  rw [if_pos h]
  simp only
  split <;> exact ⟨rfl, rfl⟩

theorem unlock_other (h : s.held.map Ref.buffer ≠ some key) :
    (s.unlock now key ttl m).2.1 = (adopt (s.wiped m) key).2 ∧
      (s.unlock now key ttl m).2.2.held = some (adopt (s.wiped m) key).1 := by
  unfold unlock
  rw [if_neg h]
  simp only [lock]
  split <;> exact ⟨rfl, rfl⟩

theorem unlock_call (hs : Sound m s) (hk : m.Holds key.id) :
    Call m s (s.unlock now key ttl m).2.1 (s.unlock now key ttl m).2.2 := by
  by_cases h : s.held.map Ref.buffer = some key
  · obtain ⟨hm, hheld⟩ := unlock_same (m := m) now key ttl h
    obtain ⟨b, hb, rfl⟩ := Option.map_eq_some_iff.1 h
    have hadopt : adopt m (.buffer b) = (b, m) := by simp [adopt, (hs b hb).2]
    rw [hadopt] at hm hheld
    rw [hm]
    exact Call.idle hs (hheld.trans hb.symm)
  · obtain ⟨hm, hheld⟩ := unlock_other (m := m) now key ttl h
    have hwiped := frame_wiped m s
    obtain ⟨hframe, hkinds, hhold, hwritable⟩ := adopt_kept (hwiped.holds hk)
    rw [hm]
    refine ⟨⟨(wipes_wiped m s).trans (Wipes.of_frame hframe hkinds), fun b hb => ?_, fun b hb _ => ?_⟩,
      hwiped.trans (hframe.mono fun _ _ hW => hW.elim)⟩
    · obtain rfl : (adopt (s.wiped m) key).1 = b := Option.some.inj (hheld.symm.trans hb)
      exact ⟨hhold, hwritable⟩
    · rw [hframe.bytes b (hwiped.holds (hs b hb).1) not_false, bytes_wiped hb]

theorem held_unlock {b : BufferId} (hb : m.isFrozen b = false) :
    (s.unlock now (.buffer b) ttl m).2.2.held = some b := by
  by_cases h : s.held.map Ref.buffer = some (.buffer b)
  · rw [(unlock_same (m := m) now _ ttl h).2]
    simp [adopt, hb]
  · rw [(unlock_other (m := m) now _ ttl h).2]
    simp [adopt, isFrozen_wiped, hb]

theorem unlockWithPassword_call (n : Nat) (threshold : Int) (password : List Char) {salt : Ref} (hs : Sound m s)
    (hsalt : m.Holds salt.id) :
    Call m s (s.unlockWithPassword n threshold now password salt ttl m).2.2.1
      (s.unlockWithPassword n threshold now password salt ttl m).2.2.2 := by
  obtain ⟨hframe, hkey⟩ := derive_kept Sha256.hasher n threshold password salt m () hsalt
  have hkinds := sameKinds_derive Sha256.hasher n threshold password salt m () hsalt
  have hs' := hs.sameKinds hkinds
  unfold unlockWithPassword
  simp only
  split
  · exact (Call.idle hs' rfl).after_frame hframe hkinds hs
  · next key hok =>
    exact (unlock_call now (.buffer key) ttl hs' (hkey key hok).2.1).after_frame hframe hkinds hs

end Unlock

/-! ## Reading and extending -/

theorem key_call (now : Float) (hs : Sound m s) :
    Call m s (s.key now m).2.1 (s.key now m).2.2 := by
  unfold key
  split
  · exact Call.idle hs rfl
  · simp only
    split
    · exact lock_call m s
    · exact Call.idle hs rfl

theorem held_key {now : Float} {b : BufferId} (h : (s.key now m).1 = .ok b) :
    s.held = some b ∧ (s.key now m).2 = (m, s) := by
  unfold key at h ⊢
  split at h
  · cases h
  · next id hid =>
    simp only at h ⊢
    split at h
    · cases h
    · next hn =>
      cases h
      rw [if_neg hn]
      exact ⟨hid, rfl⟩

/-- Reading a key never takes another one. -/
theorem held_key_or (now : Float) : (s.key now m).2.2.held = s.held ∨ (s.key now m).2.2.held = none := by
  unfold key
  split
  · exact .inl rfl
  · simp only
    split
    · exact .inr rfl
    · exact .inl rfl

theorem extend_call {now : Float} {amount : Seconds} {s' : Session} (hs : Sound m s)
    (h : s.extend now amount = .ok s') : Call m s m s' := by
  unfold extend at h
  split at h
  · cases h
  · cases h
  · cases h
    exact Call.idle hs rfl

end KeyRecovery.Session
