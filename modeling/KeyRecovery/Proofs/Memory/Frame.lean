import KeyRecovery.Memory.Lemmas
import KeyRecovery.Memory.Workspace

/-!
# What an operation on memory leaves alone

* `Frame m m' W` : from `m` to `m'` no buffer is lost, and those outside `W` keep their bytes;
* `Frame.refl`, `Frame.trans`, `Frame.mono` : frames of one operation after the other;
* `Frame.update`, `Frame.overwrite`, `Frame.zero`, `Frame.allocAs`, `Frame.bind` : the frames of single
  operations;
* `exists_update_of_extend` and its like : an operation through a reference changes the buffer that it reaches;
* `Frame.read` : what a reference into an unchanged buffer shows;
* `SameKinds m m'` : from `m` to `m'` no buffer is lost, and none freezes or thaws, whatever its bytes;
* `SameKinds.perform` : so it is after anything that is done with named references;
* `Through r m m'` : from `m` to `m'` there are only writes through `r`, and `Through.exists_update`,
  `Through.frame` : they are one change of the buffer that `r` reaches, and stay in it;
* `Wipes m m'` : from `m` to `m'` each buffer keeps its bytes or has zeros for all of them.
-/

namespace KeyRecovery.Memory

/-- What a reference shows are bytes of the one buffer that it reaches. -/
theorem read_congr {m m' : Memory} {r : Ref} (h : m'.bytes r.id = m.bytes r.id) : m'.read r = m.read r := by
  cases r with
  | buffer id => exact h
  | window id places =>
    simp only [read]
    rw [show m'.bytes id = m.bytes id from h]

/-- No buffer is lost from `m` to `m'`, and every buffer outside `W` keeps its bytes. -/
structure Frame (m m' : Memory) (W : BufferId → Prop) : Prop where
  grows : m.buffers.length ≤ m'.buffers.length
  bytes : ∀ id, m.Holds id → ¬ W id → m'.bytes id = m.bytes id

namespace Frame

variable {m m' m'' : Memory} {W W' : BufferId → Prop}

theorem refl (m : Memory) (W : BufferId → Prop) : Frame m m W := ⟨Nat.le_refl _, fun _ _ _ => rfl⟩

theorem holds (h : Frame m m' W) {id : BufferId} (hid : m.Holds id) : m'.Holds id :=
  Nat.lt_of_lt_of_le hid h.grows

theorem trans (h : Frame m m' W) (h' : Frame m' m'' W) : Frame m m'' W :=
  ⟨Nat.le_trans h.grows h'.grows, fun id hid hW =>
    (h'.bytes id (h.holds hid) hW).trans (h.bytes id hid hW)⟩

theorem mono (h : Frame m m' W) (hW : ∀ id, m.Holds id → W id → W' id) : Frame m m' W' :=
  ⟨h.grows, fun id hid hn => h.bytes id hid fun hw => hn (hW id hid hw)⟩

theorem update (m : Memory) (id : BufferId) (f : List UInt8 → List UInt8) :
    Frame m (m.update id f) (· = id) :=
  ⟨Nat.le_of_eq (length_buffers_update m id f).symm, fun _ _ h => bytes_update_other m h f⟩

theorem overwrite (m : Memory) (id : BufferId) (offset : Nat) (new : List UInt8) :
    Frame m (m.overwrite id offset new) (· = id) :=
  update m id _

theorem zero (m : Memory) (id : BufferId) : Frame m (m.zero id) (· = id) := update m id _

theorem allocAs (frozen : Bool) (m : Memory) (b : List UInt8) (W : BufferId → Prop) :
    Frame m (m.allocAs frozen b).2 W :=
  ⟨by simp [Memory.allocAs], fun _ hid _ => bytes_allocAs frozen m b hid⟩

theorem alloc (m : Memory) (b : List UInt8) (W : BufferId → Prop) : Frame m (m.alloc b).2 W :=
  allocAs false m b W

theorem read (h : Frame m m' W) {r : Ref} (hr : m.Holds r.id) (hW : ¬ W r.id) :
    m'.read r = m.read r := read_congr (h.bytes r.id hr hW)

end Frame

/-! ## Operations that may fail -/

theorem exists_of_bind_ok {ε α β : Type} {x : Except ε α} {f : α → Except ε β} {b : β}
    (h : (x >>= f) = .ok b) : ∃ a, x = .ok a ∧ f a = .ok b := by
  cases x with
  | error e => cases h
  | ok a => exact ⟨a, rfl, h⟩

theorem eq_ok_of_mapError_ok {ε ε' α : Type} {x : Except ε α} {g : ε → ε'} {a : α}
    (h : x.mapError g = .ok a) : x = .ok a := by
  cases x with
  | error e => cases h
  | ok b => cases h; rfl

theorem error_cases_of_bind {ε α β : Type} {x : Except ε α} {f : α → Except ε β} {e : ε}
    (h : x >>= f = .error e) : x = .error e ∨ ∃ a, x = .ok a ∧ f a = .error e := by
  cases x with
  | error e' =>
    cases h
    exact .inl rfl
  | ok a => exact .inr ⟨a, rfl, h⟩

theorem exists_of_mapError_error {ε ε' α : Type} {x : Except ε α} {g : ε → ε'} {e : ε'}
    (h : x.mapError g = .error e) : ∃ e', x = .error e' ∧ g e' = e := by
  cases x with
  | error e' => exact ⟨e', rfl, Except.error.inj h⟩
  | ok a => cases h

/-! ## Operations on one buffer -/

section OneBuffer

variable {m m' : Memory} {r : Ref}

theorem resize_eq_update {id : BufferId} {new : List UInt8} (h : m.resize id new = .ok m') :
    m' = m.update id fun _ => new := by
  unfold resize at h
  split at h
  · cases h
  · exact (Except.ok.inj h).symm

theorem id_of_growable {clearing : Bool} {id : BufferId} (h : m.growable? clearing (some r) = .ok id) :
    id = r.id := by
  cases r with
  | window id places => cases h
  | buffer id =>
    unfold growable? at h
    simp only at h
    split at h
    · cases h
    · exact (Except.ok.inj h).symm

theorem exists_update_of_extend {more : List UInt8} (h : m.extend (some r) more = .ok m') :
    ∃ f, m' = m.update r.id f := by
  obtain ⟨id, hid, h⟩ := exists_of_bind_ok h
  exact ⟨_, id_of_growable hid ▸ resize_eq_update h⟩

theorem exists_update_of_clear (h : m.clear (some r) = .ok m') : ∃ f, m' = m.update r.id f := by
  obtain ⟨id, hid, h⟩ := exists_of_bind_ok h
  exact ⟨_, id_of_growable hid ▸ resize_eq_update h⟩

theorem exists_update_of_wipe (h : m.wipe (some r) = .ok m') : ∃ f, m' = m.update r.id f := by
  cases r with
  | buffer id | window id places =>
    unfold wipe at h
    simp only at h
    split at h
    · cases h
    · exact ⟨_, (Except.ok.inj h).symm⟩

theorem exists_update_of_store {i v : Int} (h : m.store r i v = .ok (some m')) :
    ∃ f, m' = m.update r.id f := by
  unfold store at h
  split at h
  · cases h
  · split at h
    · cases h
    · split at h
      · cases h
      · split at h
        · cases h
        · exact ⟨_, (Option.some.inj (Except.ok.inj h)).symm⟩

end OneBuffer

/-! ## Frozen and writable buffers -/

structure SameKinds (m m' : Memory) : Prop where
  grows : m.buffers.length ≤ m'.buffers.length
  frozen : ∀ id, m.Holds id → m'.isFrozen id = m.isFrozen id

namespace SameKinds

variable {m m' m'' : Memory}

theorem refl (m : Memory) : SameKinds m m := ⟨Nat.le_refl _, fun _ _ => rfl⟩

theorem holds (h : SameKinds m m') {id : BufferId} (hid : m.Holds id) : m'.Holds id :=
  Nat.lt_of_lt_of_le hid h.grows

theorem trans (h : SameKinds m m') (h' : SameKinds m' m'') : SameKinds m m'' :=
  ⟨Nat.le_trans h.grows h'.grows, fun id hid => (h'.frozen id (h.holds hid)).trans (h.frozen id hid)⟩

theorem update (m : Memory) (id : BufferId) (f : List UInt8 → List UInt8) :
    SameKinds m (m.update id f) :=
  ⟨Nat.le_of_eq (length_buffers_update m id f).symm, fun other _ => isFrozen_update m id other f⟩

theorem repin (m : Memory) (id : BufferId) (f : Nat → Nat) : SameKinds m (m.repin id f) :=
  ⟨Nat.le_of_eq (length_buffers_repin m id f).symm, fun other _ => isFrozen_repin m id other f⟩

theorem allocAs (frozen : Bool) (m : Memory) (b : List UInt8) :
    SameKinds m (m.allocAs frozen b).2 :=
  ⟨by simp [Memory.allocAs], fun id hid => by
    rw [isFrozen_allocAs, if_neg (Nat.ne_of_lt hid)]⟩

theorem pin (m : Memory) (r : Ref) : SameKinds m (m.pin r) := by
  unfold Memory.pin
  split
  · exact repin m r.id _
  · exact refl m

theorem unpin (m : Memory) (r : Ref) : SameKinds m (m.unpin r) := by
  unfold Memory.unpin
  split
  · exact repin m r.id _
  · exact refl m

theorem bind (w : Workspace) (name : String) (r : Ref) :
    SameKinds w.memory (w.bind name r).memory := by
  unfold Workspace.bind
  split
  · exact (pin w.memory r).trans (unpin _ _)
  · exact pin w.memory r

theorem wipe {r : Option Ref} (h : m.wipe r = .ok m') : SameKinds m m' := by
  cases r with
  | none =>
    cases h
    exact refl m
  | some r =>
    obtain ⟨f, rfl⟩ := exists_update_of_wipe h
    exact update m r.id f

theorem resize {id : BufferId} {new : List UInt8} (h : m.resize id new = .ok m') :
    SameKinds m m' := by
  rw [resize_eq_update h]
  exact update m id _

theorem extend {r : Option Ref} {more : List UInt8} (h : m.extend r more = .ok m') :
    SameKinds m m' := by
  obtain ⟨id, -, h⟩ := exists_of_bind_ok h
  exact resize h

theorem store {r : Ref} {i v : Int} (h : m.store r i v = .ok (some m')) : SameKinds m m' := by
  obtain ⟨f, rfl⟩ := exists_update_of_store h
  exact update m r.id f

theorem perform {w w' : Workspace} {a : Workspace.Action} {changed : Bool}
    (h : w.perform a = .ok (changed, w')) : SameKinds w.memory w'.memory := by
  cases a with
  | make frozen name bytes =>
    cases h
    exact (allocAs frozen w.memory bytes).trans
      (bind { w with memory := (w.memory.allocAs frozen bytes).2 } name _)
  | window name source slice =>
    obtain ⟨r, -, h⟩ := exists_of_bind_ok h
    obtain ⟨v, -, h⟩ := exists_of_bind_ok h
    cases h
    exact bind w name v
  | wipe name =>
    obtain ⟨r, -, h⟩ := exists_of_bind_ok h
    obtain ⟨m, hm, h⟩ := exists_of_bind_ok h
    cases h
    exact wipe (eq_ok_of_mapError_ok hm)
  | append name more =>
    obtain ⟨r, -, h⟩ := exists_of_bind_ok h
    obtain ⟨m, hm, h⟩ := exists_of_bind_ok h
    cases h
    exact extend (eq_ok_of_mapError_ok hm)
  | store name i v =>
    obtain ⟨r, -, h⟩ := exists_of_bind_ok h
    obtain ⟨found, hm, h⟩ := exists_of_bind_ok h
    cases found with
    | none =>
      cases h
      exact refl w.memory
    | some m =>
      cases h
      exact store (eq_ok_of_mapError_ok hm)

end SameKinds

/-! ## Writing through a reference -/

/-- From `m` to `m'` there are only writes through `r`: of single bytes, of zeros, of more bytes or of none. -/
inductive Through (r : Ref) (m : Memory) : Memory → Prop
  | refl : Through r m m
  | store {m' m'' : Memory} {i v : Int} (h : Through r m m') (hs : m'.store r i v = .ok (some m'')) :
    Through r m m''
  | wipe {m' m'' : Memory} (h : Through r m m') (hw : m'.wipe (some r) = .ok m'') : Through r m m''
  | extend {m' m'' : Memory} {more : List UInt8} (h : Through r m m')
    (he : m'.extend (some r) more = .ok m'') : Through r m m''
  | clear {m' m'' : Memory} (h : Through r m m') (hc : m'.clear (some r) = .ok m'') : Through r m m''

theorem Through.exists_update {r : Ref} {m m' : Memory} (h : Through r m m') : ∃ f, m' = m.update r.id f := by
  have hnext {m' m'' : Memory} (hm' : ∃ f, m' = m.update r.id f) (hm'' : ∃ f, m'' = m'.update r.id f) :
      ∃ f, m'' = m.update r.id f := by
    obtain ⟨f, rfl⟩ := hm'
    obtain ⟨g, rfl⟩ := hm''
    exact ⟨_, update_update m r.id f g⟩
  induction h with
  | refl => exact ⟨_, (update_id m r.id).symm⟩
  | store _ hs ih => exact hnext ih (exists_update_of_store hs)
  | wipe _ hw ih => exact hnext ih (exists_update_of_wipe hw)
  | extend _ he ih => exact hnext ih (exists_update_of_extend he)
  | clear _ hc ih => exact hnext ih (exists_update_of_clear hc)

theorem Through.frame {r : Ref} {m m' : Memory} (h : Through r m m') : Frame m m' (· = r.id) := by
  obtain ⟨f, rfl⟩ := h.exists_update
  exact Frame.update m r.id f

/-! ## Wiping -/

structure Wipes (m m' : Memory) : Prop extends SameKinds m m' where
  bytes : ∀ id, m.Holds id →
    m'.bytes id = m.bytes id ∨ m'.bytes id = List.replicate (m.bytes id).length 0

namespace Wipes

variable {m m' m'' : Memory} {id : BufferId}

theorem refl (m : Memory) : Wipes m m := ⟨SameKinds.refl m, fun _ _ => .inl rfl⟩

theorem length (h : Wipes m m') (hid : m.Holds id) : (m'.bytes id).length = (m.bytes id).length := by
  rcases h.bytes id hid with hb | hb
  · rw [hb]
  · rw [hb, List.length_replicate]

theorem zeros (h : Wipes m m') (hid : m.Holds id) {n : Nat} (hz : m.bytes id = List.replicate n 0) :
    m'.bytes id = List.replicate n 0 := by
  rcases h.bytes id hid with hb | hb
  · rw [hb, hz]
  · rw [hb, hz, List.length_replicate]

theorem trans (h : Wipes m m') (h' : Wipes m' m'') : Wipes m m'' := by
  refine ⟨h.toSameKinds.trans h'.toSameKinds, fun id hid => ?_⟩
  rcases h.bytes id hid with hb | hb
  · rw [← hb]
    exact h'.bytes id (h.holds hid)
  · exact .inr (h'.zeros (h.holds hid) hb)

theorem zero (m : Memory) (id : BufferId) : Wipes m (m.zero id) := by
  refine ⟨SameKinds.update m id _, fun other _ => ?_⟩
  rw [bytes_zero]
  split
  · next h => exact .inr (h ▸ rfl)
  · exact .inl rfl

/-- What writes only new buffers. -/
theorem of_frame (h : Frame m m' fun _ => False) (hk : SameKinds m m') : Wipes m m' :=
  ⟨hk, fun id hid => .inl (h.bytes id hid not_false)⟩

end Wipes

theorem Frame.bind (w : Workspace) (name : String) (r : Ref) (W : BufferId → Prop) :
    Frame w.memory (w.bind name r).memory W := by
  refine ⟨(SameKinds.bind w name r).grows, fun id _ _ => ?_⟩
  unfold Workspace.bind
  cases w.find? name <;> simp only [bytes_pin, bytes_unpin]

end KeyRecovery.Memory
