import KeyRecovery.Proofs.Memory.Wipe
import KeyRecovery.Proofs.Session.Keyring

/-!
# What a session keeps of a key that it is given

The key that a session held before is wiped before the new one is taken, unless both are the very same buffer.
A window on the old key is not the same buffer, so all that is left to copy through it are zeros.

* `ShownBy s key` : `key` is a window on the buffer that session `s` holds;
* `read_wiped_of_ne`, `read_wiped_of_eq` : what a reference shows after the wipe;
* `adopt_same`, `adopt_copy`, `bytes_adopt` : which buffer a key is kept in, and what is in it;
* `bytes_unlock`, `placed_unlock` : so what is held after a key was given, and where;
* `Keyring.stored_key` : so it is in every keyring;
* `Keyring.stored_zeros` : a window on the held key is kept as zeros.
-/

namespace KeyRecovery

namespace Session

variable {m : Memory} {s : Session} {key : Ref}

def ShownBy (s : Session) (key : Ref) : Prop := key.isWindow = true ∧ s.held = some key.id

/-! ## Wiping -/

theorem length_buffers_wiped (m : Memory) (s : Session) :
    (s.wiped m).buffers.length = m.buffers.length := by
  unfold wiped
  split
  · exact Memory.length_buffers_update m _ _
  · rfl

theorem read_wiped_of_ne (h : s.held ≠ some key.id) : (s.wiped m).read key = m.read key := by
  refine Memory.read_congr ?_
  unfold wiped
  split
  · next id hid =>
    have hne : key.id ≠ id := fun heq => h (heq ▸ hid)
    rw [Memory.bytes_zero, if_neg hne]
  · rfl

theorem read_wiped_of_eq (h : s.held = some key.id) :
    (s.wiped m).read key = List.replicate (m.read key).length 0 := by
  have hb : (s.wiped m).bytes key.id = List.replicate (m.bytes key.id).length 0 := bytes_wiped h
  refine Memory.read_eq_zeros (by rw [hb, List.length_replicate]) fun i _ => ?_
  rw [hb, List.getD_eq_getElem?_getD, List.getElem?_replicate]
  split <;> rfl

/-! ## Taking a key -/

theorem adopt_same {id : BufferId} (h : m.isFrozen id = false) : adopt m (.buffer id) = (id, m) := by
  simp [adopt, h]

theorem adopt_copy (h : key.isWindow = true ∨ m.isFrozen key.id = true) :
    adopt m key = m.alloc (m.read key) := by
  cases key with
  | window id places => rfl
  | buffer id =>
    have hf : m.isFrozen id = true := h.resolve_left Bool.false_ne_true
    simp [adopt, hf, Memory.read]

theorem isWindow_or_frozen (m : Memory) (key : Ref) :
    (∃ id, key = .buffer id ∧ m.isFrozen id = false) ∨ key.isWindow = true ∨ m.isFrozen key.id = true := by
  cases key with
  | window id places => exact .inr (.inl rfl)
  | buffer id =>
    cases hf : m.isFrozen id with
    | false => exact .inl ⟨id, rfl, hf⟩
    | true => exact .inr (.inr hf)

theorem bytes_adopt (m : Memory) (key : Ref) : (adopt m key).2.bytes (adopt m key).1 = m.read key := by
  rcases isWindow_or_frozen m key with ⟨id, rfl, hf⟩ | h
  · rw [adopt_same hf]
    rfl
  · rw [adopt_copy h]
    exact Memory.bytes_allocAs_self false m _

section Unlock

variable (now : Float) (ttl : Seconds)

theorem bytes_unlock (key : Ref) (m : Memory) (s : Session) :
    ∃ b, (s.unlock now key ttl m).2.2.held = some b ∧
      (¬ s.ShownBy key → (s.unlock now key ttl m).2.1.bytes b = m.read key) ∧
      (s.ShownBy key → (s.unlock now key ttl m).2.1.bytes b = List.replicate (m.read key).length 0) := by
  by_cases h : s.held.map Ref.buffer = some key
  · obtain ⟨hm, hheld⟩ := unlock_same (m := m) now key ttl h
    obtain ⟨b, hb, rfl⟩ := Option.map_eq_some_iff.1 h
    refine ⟨_, hheld, fun _ => ?_, fun hshown => absurd hshown.1 Bool.false_ne_true⟩
    rw [hm, bytes_adopt]
  · obtain ⟨hm, hheld⟩ := unlock_other (m := m) now key ttl h
    refine ⟨_, hheld, fun hshown => ?_, fun hshown => ?_⟩
    · rw [hm, bytes_adopt]
      refine read_wiped_of_ne fun hid => ?_
      cases key with
      | window id places => exact hshown ⟨rfl, hid⟩
      | buffer id => exact h (by rw [hid]; rfl)
    · rw [hm, bytes_adopt, read_wiped_of_eq hshown.2]

theorem placed_unlock (hs : Sound m s) {b : BufferId} (hb : (s.unlock now key ttl m).2.2.held = some b) :
    (∀ id, key = .buffer id → m.isFrozen id = false → b = id) ∧
      (key.isWindow = true ∨ m.isFrozen key.id = true → ¬ m.Holds b) := by
  refine ⟨fun id hid hf => ?_, fun hcopied => ?_⟩
  · subst hid
    exact Option.some.inj (hb.symm.trans (held_unlock now ttl hf))
  · have hne : s.held.map Ref.buffer ≠ some key := by
      intro h
      obtain ⟨id, hid, rfl⟩ := Option.map_eq_some_iff.1 h
      rcases hcopied with hw | hf
      · exact Bool.false_ne_true hw
      · exact Bool.false_ne_true ((hs id hid).2.symm.trans hf)
    have hcopied' : key.isWindow = true ∨ (s.wiped m).isFrozen key.id = true := by
      rwa [isFrozen_wiped]
    rw [(unlock_other (m := m) now key ttl hne).2, adopt_copy hcopied'] at hb
    have hlen : b = m.buffers.length := (Option.some.inj hb).symm.trans (length_buffers_wiped m s)
    rw [hlen]
    exact Nat.lt_irrefl _

end Unlock

/-- A key that lies in another buffer than the one that is held has nothing to do with it: writes through the
key do not reach what is held, and locking does not reach what the key shows. -/
theorem apart_of_ne {b : BufferId} (hb : s.held = some b) (hne : b ≠ key.id) (hm : m.Holds b) :
    (∀ m', m.Through key m' → m'.bytes b = m.bytes b) ∧
      ∀ m', (s.lock m').1.read key = m'.read key := by
  refine ⟨fun m' h => h.frame.bytes b hm hne, fun m' => read_wiped_of_ne ?_⟩
  rw [hb]
  exact fun heq => hne (Option.some.inj heq)

end Session

/-! ## In a keyring -/

namespace Keyring

theorem perform_unlock {k : Keyring} {key : String} {r : Ref} (hr : k.workspace.find? key = some r)
    (name : String) (ttl : Seconds) :
    (k.perform (.unlock name key ttl)).2 =
      k.put name ((k.session name).unlock k.clock r ttl k.workspace.memory).2.1
        ((k.session name).unlock k.clock r ttl k.workspace.memory).2.2 := by
  have hfind : k.workspace.find key = .ok r := by
    unfold Workspace.find
    rw [hr]
  simp only [perform, hfind]
  rfl

/-- **What a session keeps of a key.** In any keyring that actions and clients lead to, after a session was given
a key, whether its time to live was accepted or not, it holds a buffer with these bytes:

* those that the key showed right before, unless the key is a window on the buffer that the session held;
* then as many zeros, since that buffer was wiped first.

A writable buffer is held itself. Anything else is kept in a new buffer: whatever is later written through the
key does not reach it, and locking the session leaves what the key shows as it is. -/
theorem stored_key {k : Keyring} (hk : Reachable k) (name : String) {key : String} {r : Ref}
    (hr : k.workspace.find? key = some r) (ttl : Seconds) :
    let k' := (k.perform (.unlock name key ttl)).2
    let m := k.workspace.memory
    let m' := k'.workspace.memory
    ∃ b, (k'.session name).held = some b ∧
      (¬ (k.session name).ShownBy r → m'.bytes b = m.read r) ∧
      ((k.session name).ShownBy r → m'.bytes b = List.replicate (m.read r).length 0) ∧
      (∀ id, r = .buffer id → m.isFrozen id = false → b = id) ∧
      (r.isWindow = true ∨ m.isFrozen r.id = true → ¬ m.Holds b ∧
        (∀ m'', m'.Through r m'' → m''.bytes b = m'.bytes b) ∧
        ∀ m'', ((k'.session name).lock m'').1.read r = m''.read r) := by
  intro k' m m'
  have hs : (k.session name).Sound m := hk.sound.keys name
  have hheld : m.Holds r.id := hk.sound.names key r hr
  have hk' : k' = _ := perform_unlock hr name ttl
  have hsession : k'.session name = ((k.session name).unlock k.clock r ttl m).2.2 := by
    rw [hk', session_put, if_pos rfl]
  have hm' : m' = ((k.session name).unlock k.clock r ttl m).2.1 := by
    simp only [m', hk']
    rfl
  have hs' := (Session.unlock_call k.clock r ttl hs hheld).sound
  obtain ⟨b, hb, hbytes, hzero⟩ := Session.bytes_unlock k.clock ttl r m (k.session name)
  obtain ⟨hsame, hfresh⟩ := Session.placed_unlock k.clock ttl hs hb
  rw [← hsession] at hb hs'
  rw [← hm'] at hbytes hzero hs'
  refine ⟨b, hb, hbytes, hzero, hsame, fun hcopied => ⟨hfresh hcopied, ?_⟩⟩
  exact Session.apart_of_ne hb (fun heq => hfresh hcopied (heq ▸ hheld)) (hs' b hb).1

/-- A session that holds one key is given a reversed window on another buffer. -/
theorem stored_key_reversed :
    let run (actions : List Action) := actions.foldl (fun k a => (perform k a).2) (.empty 1 20)
    let k := run [.edit (.make false "key" [7, 8, 9]), .edit (.make false "other" [4, 5, 6]),
      .edit (.window "back" "other" ⟨none, none, some (-1)⟩), .unlock "a" "key" (.real 60)]
    let k' := (k.perform (.unlock "a" "back" (.real 60))).2
    (k.session "a").held = some 0 ∧ (k'.session "a").held = some 2 ∧
      k'.workspace.memory.bytes 2 = [6, 5, 4] ∧
      ∀ m, k'.workspace.memory.Through (.window 1 [2, 1, 0]) m → m.bytes 2 = [6, 5, 4] := by
  intro run k k'
  have hk : Reachable k := ((((Reachable.empty 1 20).perform _).perform _).perform _).perform _
  have hr : k.workspace.find? "back" = some (.window 1 [2, 1, 0]) := by decide +kernel
  have ha : (k.session "a").held = some 0 := by decide +kernel
  have ha' : (k'.session "a").held = some 2 := by decide +kernel
  have hshown : ¬ (k.session "a").ShownBy (.window 1 [2, 1, 0]) := by
    rintro ⟨-, h⟩
    rw [ha] at h
    cases h
  obtain ⟨b, hb, hbytes, -, -, hcopy⟩ := stored_key hk "a" hr (.real 60)
  obtain rfl : 2 = b := Option.some.inj (ha'.symm.trans hb)
  have hkept : k'.workspace.memory.bytes 2 = [6, 5, 4] := (hbytes hshown).trans (by decide +kernel)
  exact ⟨ha, ha', hkept, fun m h => ((hcopy (.inl rfl)).2.1 m h).trans hkept⟩

/-- A session that is given a window on the very key that it holds keeps as many zeros, and does not say so. -/
theorem stored_zeros :
    let run (actions : List Action) := actions.foldl (fun k a => (perform k a).2) (.empty 1 20)
    let k := run [.edit (.make false "key" [1, 2]), .unlock "a" "key" (.real 300),
      .edit (.window "view" "key" ⟨none, none, none⟩)]
    let (answer, k') := k.perform (.unlock "a" "view" (.real 300))
    k.workspace.find? "view" = some (.window 0 [0, 1]) ∧
      k.workspace.memory.read (.window 0 [0, 1]) = [1, 2] ∧ answer = .ok .done ∧
      (k'.session "a").held = some 1 ∧ k'.workspace.memory.bytes 1 = [0, 0] :=
  ⟨by decide +kernel, by decide +kernel, rfl, by decide +kernel, by decide +kernel⟩

end Keyring

end KeyRecovery
