import KeyRecovery.Memory.Basic

/-!
# What the operations do to the bytes of a buffer

* `bytes_update`, `bytes_zero`, `bytes_overwrite_self` : a change reaches one buffer and no other;
* `bytes_allocAs`, `bytes_allocAs_self`, `isFrozen_allocAs` : a new buffer leaves the others alone;
* `bytes_repin`, `isFrozen_repin` : counting windows changes no bytes;
* `update_update`, `update_comm`, `update_allocAs` : two changes of one buffer, or of two, and a new one between.
-/

namespace KeyRecovery.Memory

/-- A buffer that has been given out. -/
def Holds (m : Memory) (id : BufferId) : Prop := id < m.buffers.length

theorem bytes_of_not_holds {m : Memory} {id : BufferId} (h : ¬ m.Holds id) : m.bytes id = [] := by
  have : m.buffers[id]? = none := List.getElem?_eq_none (Nat.le_of_not_lt h)
  simp [bytes, this]

/-! ## Changing one buffer -/

@[simp] theorem length_buffers_update (m : Memory) (id : BufferId) (f : List UInt8 → List UInt8) :
    (m.update id f).buffers.length = m.buffers.length := by
  simp [update]

theorem bytes_update_self {m : Memory} {id : BufferId} (h : m.Holds id)
    (f : List UInt8 → List UInt8) : (m.update id f).bytes id = f (m.bytes id) := by
  have h' : id < m.buffers.length := h
  simp [bytes, update, h']

theorem bytes_update_other (m : Memory) {id other : BufferId} (h : other ≠ id)
    (f : List UInt8 → List UInt8) : (m.update id f).bytes other = m.bytes other := by
  simp [bytes, update, Ne.symm h]

theorem bytes_update (m : Memory) (id other : BufferId) (f : List UInt8 → List UInt8)
    (hf : f [] = []) :
    (m.update id f).bytes other = if other = id then f (m.bytes id) else m.bytes other := by
  split
  · next h =>
    subst h
    by_cases hm : m.Holds other
    · exact bytes_update_self hm f
    · have hm' : ¬ (m.update other f).Holds other := by simpa [Holds] using hm
      rw [bytes_of_not_holds hm, bytes_of_not_holds hm', hf]
  · next h => exact bytes_update_other m h f

theorem bytes_zero (m : Memory) (id other : BufferId) :
    (m.zero id).bytes other =
      if other = id then List.replicate (m.bytes id).length 0 else m.bytes other :=
  bytes_update m id other _ rfl

theorem length_bytes_zero (m : Memory) (id other : BufferId) :
    ((m.zero id).bytes other).length = (m.bytes other).length := by
  rw [bytes_zero]
  split
  · next h => rw [h, List.length_replicate]
  · rfl

theorem isFrozen_update (m : Memory) (id other : BufferId) (f : List UInt8 → List UInt8) :
    (m.update id f).isFrozen other = m.isFrozen other := by
  by_cases h : id = other
  · subst h
    simp only [isFrozen, update, List.getElem?_modify]
    cases m.buffers[id]? <;> simp
  · simp [isFrozen, update, h]

theorem isFrozen_zero (m : Memory) (id other : BufferId) :
    (m.zero id).isFrozen other = m.isFrozen other :=
  isFrozen_update m id other _

/-! ## New buffers -/

theorem bytes_allocAs_self (frozen : Bool) (m : Memory) (b : List UInt8) :
    (m.allocAs frozen b).2.bytes (m.allocAs frozen b).1 = b := by
  simp [allocAs, bytes]

theorem bytes_allocAs (frozen : Bool) (m : Memory) (b : List UInt8) {id : BufferId}
    (h : m.Holds id) : (m.allocAs frozen b).2.bytes id = m.bytes id := by
  have h' : id < m.buffers.length := h
  simp [allocAs, bytes, List.getElem?_append_left h']

theorem holds_allocAs (frozen : Bool) (m : Memory) (b : List UInt8) :
    (m.allocAs frozen b).2.Holds (m.allocAs frozen b).1 := by
  simp [Holds, allocAs]

theorem isFrozen_of_not_holds {m : Memory} {id : BufferId} (h : ¬ m.Holds id) :
    m.isFrozen id = false := by
  have : m.buffers[id]? = none := List.getElem?_eq_none (Nat.le_of_not_lt h)
  simp [isFrozen, this]

theorem isFrozen_allocAs (frozen : Bool) (m : Memory) (b : List UInt8) (id : BufferId) :
    (m.allocAs frozen b).2.isFrozen id =
      if id = m.buffers.length then frozen else m.isFrozen id := by
  rcases Nat.lt_trichotomy id m.buffers.length with h | h | h
  · simp [isFrozen, allocAs, List.getElem?_append_left h, Nat.ne_of_lt h]
  · simp [isFrozen, allocAs, h]
  · have hnew : ¬ (m.allocAs frozen b).2.Holds id := by
      simpa [Holds, allocAs] using Nat.succ_le_of_lt h
    rw [if_neg (Nat.ne_of_gt h), isFrozen_of_not_holds hnew,
      isFrozen_of_not_holds (Nat.not_lt_of_gt h)]

/-- A new writable buffer is as little frozen as no buffer. -/
theorem isFrozen_alloc (m : Memory) (b : List UInt8) (id : BufferId) :
    (m.alloc b).2.isFrozen id = m.isFrozen id := by
  rw [alloc, isFrozen_allocAs]
  split
  · next h => rw [isFrozen_of_not_holds (by rw [h]; exact Nat.lt_irrefl _)]
  · rfl

/-! ## Windows -/

@[simp] theorem length_buffers_repin (m : Memory) (id : BufferId) (f : Nat → Nat) :
    (m.repin id f).buffers.length = m.buffers.length := by
  simp [repin]

@[simp] theorem bytes_repin (m : Memory) (id other : BufferId) (f : Nat → Nat) :
    (m.repin id f).bytes other = m.bytes other := by
  by_cases h : id = other
  · subst h
    simp only [bytes, repin, List.getElem?_modify]
    cases m.buffers[id]? <;> simp
  · simp [bytes, repin, h]

@[simp] theorem isFrozen_repin (m : Memory) (id other : BufferId) (f : Nat → Nat) :
    (m.repin id f).isFrozen other = m.isFrozen other := by
  by_cases h : id = other
  · subst h
    simp only [isFrozen, repin, List.getElem?_modify]
    cases m.buffers[id]? <;> simp
  · simp [isFrozen, repin, h]

@[simp] theorem bytes_pin (m : Memory) (r : Ref) (id : BufferId) :
    (m.pin r).bytes id = m.bytes id := by
  unfold pin
  split
  · exact bytes_repin m r.id id _
  · rfl

@[simp] theorem bytes_unpin (m : Memory) (r : Ref) (id : BufferId) :
    (m.unpin r).bytes id = m.bytes id := by
  unfold unpin
  split
  · exact bytes_repin m r.id id _
  · rfl

/-! ## Writing inside a buffer -/

theorem bytes_overwrite_self {m : Memory} {id : BufferId} (h : m.Holds id) (offset : Nat)
    (new : List UInt8) :
    (m.overwrite id offset new).bytes id =
      (m.bytes id).take offset ++ new ++ (m.bytes id).drop (offset + new.length) :=
  bytes_update_self h _

theorem isFrozen_overwrite (m : Memory) (id other : BufferId) (offset : Nat) (new : List UInt8) :
    (m.overwrite id offset new).isFrozen other = m.isFrozen other :=
  isFrozen_update m id other _

/-! ## Zeros -/

theorem update_id (m : Memory) (id : BufferId) : m.update id (fun old => old) = m :=
  congrArg Memory.mk (List.modify_id id m.buffers)

theorem update_update (m : Memory) (id : BufferId) (f g : List UInt8 → List UInt8) :
    (m.update id f).update id g = m.update id (g ∘ f) := by
  simp only [update, mk.injEq]
  apply List.ext_getElem?
  intro i
  by_cases h : id = i
  · subst h
    simp only [List.getElem?_modify]
    cases m.buffers[id]? <;> simp
  · simp [h]

theorem update_comm (m : Memory) {a b : BufferId} (h : a ≠ b) (f g : List UInt8 → List UInt8) :
    (m.update a f).update b g = (m.update b g).update a f := by
  simp only [update, mk.injEq]
  apply List.ext_getElem?
  intro i
  by_cases ha : a = i
  · subst ha; simp [Ne.symm h]
  · by_cases hb : b = i
    · subst hb; simp [h]
    · simp [ha, hb]

theorem update_allocAs {m : Memory} {id : BufferId} (h : m.Holds id) (f : List UInt8 → List UInt8)
    (frozen : Bool) (b : List UInt8) :
    (m.allocAs frozen b).2.update id f = ((m.update id f).allocAs frozen b).2 := by
  simp only [allocAs, update, mk.injEq]
  apply List.ext_getElem?
  intro i
  rcases Nat.lt_or_ge i m.buffers.length with hi | hi
  · rw [List.getElem?_modify, List.getElem?_append_left hi, List.getElem?_append_left (by simpa using hi),
      List.getElem?_modify]
  · have hne : id ≠ i := Nat.ne_of_lt (Nat.lt_of_lt_of_le h hi)
    simp [List.getElem?_append_right, hi, hne]

end KeyRecovery.Memory
