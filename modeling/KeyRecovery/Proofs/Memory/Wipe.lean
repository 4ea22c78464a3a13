import KeyRecovery.Proofs.Memory.Stride
import Mathlib.Data.List.Basic

/-!
# What a wipe does to the bytes of all buffers

A wipe writes zeros at the places that a reference shows, whether it is a whole buffer or a window.

* `getElem?_zeroAt`, `zeroAt_zeroAt`, `zeroAt_comm` : zeros at some places of a byte string;
* `wipe_of_writable`, `wipe_of_frozen` : the two answers of a wipe;
* `read_eq_zeros` : what shows zeros;
* `Clears m m' id C` : from `m` to `m'` the bytes of `id` at the places `C` become zeros, and that is all;
* `wiped`, `wiped_wiped`, `wiped_comm` : the memory after a wipe, done or refused; a second one changes nothing, and
  two may change places;
* `wipe_exact` : so it is for every chain of slices of every buffer.
-/

namespace KeyRecovery.Memory

/-! ## Zeros at some places -/

section ZeroAt

variable (ps qs : List Nat) (b : List UInt8)

@[simp] theorem length_zeroAt : (zeroAt ps b).length = b.length := by simp [zeroAt]

theorem getElem?_zeroAt (i : Nat) :
    (zeroAt ps b)[i]? = if i ∈ ps then b[i]?.map fun _ => 0 else b[i]? := by
  simp only [zeroAt, List.getElem?_mapIdx, List.contains_eq_mem, decide_eq_true_eq]
  split <;> simp

theorem zeroAt_zeroAt : zeroAt ps (zeroAt ps b) = zeroAt ps b := by
  apply List.ext_getElem?
  intro i
  simp only [getElem?_zeroAt]
  split
  · rw [Option.map_map]
    rfl
  · rfl

theorem zeroAt_comm : zeroAt ps (zeroAt qs b) = zeroAt qs (zeroAt ps b) := by
  apply List.ext_getElem?
  intro i
  simp only [getElem?_zeroAt]
  split <;> split <;> simp only [Option.map_map]

/-- Zeros at all places are what a buffer is wiped with. -/
theorem zeroAt_range : zeroAt (List.range b.length) b = List.replicate b.length 0 := by
  apply List.ext_getElem?
  intro i
  rw [getElem?_zeroAt, List.getElem?_replicate]
  by_cases h : i < b.length
  · simp [h]
  · simp [h]

end ZeroAt

variable {m m' : Memory} {r : Ref} {id : BufferId} {C : Nat → Prop}

/-! ## The two answers -/

theorem isPinned_update (m : Memory) (id other : BufferId) (f : List UInt8 → List UInt8) :
    (m.update id f).isPinned other = m.isPinned other := by
  by_cases h : id = other
  · subst h
    simp only [isPinned, update, List.getElem?_modify]
    cases m.buffers[id]? <;> simp
  · simp [isPinned, update, h]

/-- Only what a change makes of the bytes that are there matters. -/
theorem update_congr {f g : List UInt8 → List UInt8} (h : f (m.bytes id) = g (m.bytes id)) :
    m.update id f = m.update id g := by
  simp only [update, mk.injEq]
  apply List.ext_getElem?
  intro i
  simp only [List.getElem?_modify]
  by_cases hi : id = i
  · subst hi
    cases hb : m.buffers[id]? with
    | none => simp
    | some b =>
      have hbytes : m.bytes id = b.bytes := by simp [bytes, hb]
      rw [hbytes] at h
      simp [h]
  · simp [hi]

theorem wipe_of_writable (h : m.isFrozen r.id = false) :
    m.wipe (some r) = .ok (m.update r.id (zeroAt (m.places r))) := by
  cases r with
  | buffer id =>
    have h : m.isFrozen id = false := h
    have hzero : m.zero id = m.update id (zeroAt (m.places (.buffer id))) :=
      update_congr (zeroAt_range (m.bytes id)).symm
    simp only [wipe, h, hzero]
    rfl
  | window id places =>
    have h : m.isFrozen id = false := h
    simp only [wipe, h]
    rfl

theorem wipe_of_frozen (h : m.isFrozen r.id = true) :
    m.wipe (some r) = .error (if r.isWindow then .frozenWindow else .frozenBuffer) := by
  cases r with
  | buffer id | window id places =>
    have h : m.isFrozen id = true := h
    simp only [wipe, h]
    rfl

/-! ## What is cleared -/

/-- From `m` to `m'` the bytes of `id` at the places `C` become zeros. All lengths stay, all other bytes, and
what else there is to know of a buffer. -/
structure Clears (m m' : Memory) (id : BufferId) (C : Nat → Prop) : Prop where
  buffers : m'.buffers.length = m.buffers.length
  frozen : ∀ other, m'.isFrozen other = m.isFrozen other
  pinned : ∀ other, m'.isPinned other = m.isPinned other
  length : ∀ other, (m'.bytes other).length = (m.bytes other).length
  zero : ∀ i < (m.bytes id).length, C i → (m'.bytes id)[i]? = some 0
  kept : ∀ i, ¬ C i → (m'.bytes id)[i]? = (m.bytes id)[i]?
  others : ∀ other, other ≠ id → m'.bytes other = m.bytes other

theorem bytes_update_zeroAt (m : Memory) (id other : BufferId) (ps : List Nat) :
    (m.update id (zeroAt ps)).bytes other = if other = id then zeroAt ps (m.bytes id) else m.bytes other :=
  bytes_update m id other _ rfl

theorem clears_update (m : Memory) (id : BufferId) (ps : List Nat) :
    Clears m (m.update id (zeroAt ps)) id (· ∈ ps) where
  buffers := length_buffers_update m id _
  frozen other := isFrozen_update m id other _
  pinned other := isPinned_update m id other _
  length other := by
    rw [bytes_update_zeroAt]
    split
    · next h => rw [length_zeroAt, h]
    · rfl
  zero i hi hC := by
    rw [bytes_update_zeroAt, if_pos rfl, getElem?_zeroAt, if_pos hC, List.getElem?_eq_getElem hi]
    rfl
  kept i hC := by rw [bytes_update_zeroAt, if_pos rfl, getElem?_zeroAt, if_neg hC]
  others other h := bytes_update_other m h _

/-- A reference shows the same places as long as the length of its buffer stays. -/
theorem places_congr (h : (m'.bytes r.id).length = (m.bytes r.id).length) : m'.places r = m.places r := by
  cases r with
  | buffer id => exact congrArg List.range h
  | window id places => rfl

theorem read_eq_zeros (hlen : (m'.bytes r.id).length = (m.bytes r.id).length)
    (hzero : ∀ i ∈ m.places r, (m'.bytes r.id).getD i 0 = 0) :
    m'.read r = List.replicate (m.read r).length 0 := by
  rw [read_eq, read_eq, places_congr hlen]
  apply List.eq_replicate_iff.2
  refine ⟨by rw [List.length_map, List.length_map], fun x hx => ?_⟩
  obtain ⟨i, hi, rfl⟩ := List.mem_map.1 hx
  exact hzero i hi

/-- Where all that a reference shows is cleared, it shows zeros. -/
theorem Clears.read (h : Clears m m' r.id (· ∈ m.places r)) :
    m'.read r = List.replicate (m.read r).length 0 := by
  refine read_eq_zeros (h.length r.id) fun i hi => ?_
  rw [List.getD_eq_getElem?_getD]
  by_cases hlen : i < (m.bytes r.id).length
  · rw [h.zero i hlen hi]
    rfl
  · rw [List.getElem?_eq_none (by rw [h.length]; exact Nat.not_lt.1 hlen)]
    rfl

theorem Clears.congr {C' : Nat → Prop} (h : Clears m m' id C) (hC : ∀ i, C' i ↔ C i) : Clears m m' id C' := by
  have : C' = C := funext fun i => propext (hC i)
  rwa [this]

/-! ## Wipes in a row -/

def wiped (m : Memory) (r : Option Ref) : Memory :=
  match m.wipe r with
  | .ok m' => m'
  | .error _ => m

theorem wiped_of_writable (h : m.isFrozen r.id = false) :
    m.wiped (some r) = m.update r.id (zeroAt (m.places r)) := by
  rw [wiped, wipe_of_writable h]

theorem wiped_of_frozen (h : m.isFrozen r.id = true) : m.wiped (some r) = m := by
  rw [wiped, wipe_of_frozen h]

theorem isFrozen_wiped (m : Memory) (a : Option Ref) (id : BufferId) :
    (m.wiped a).isFrozen id = m.isFrozen id := by
  cases a with
  | none => rfl
  | some r =>
    cases h : m.isFrozen r.id with
    | true => rw [wiped_of_frozen h]
    | false => rw [wiped_of_writable h, isFrozen_update]

/-- A wipe changes no length, so a reference shows the same places after it. -/
theorem places_wiped (m : Memory) (a : Option Ref) (r : Ref) : (m.wiped a).places r = m.places r := by
  cases a with
  | none => rfl
  | some a =>
    cases h : m.isFrozen a.id with
    | true => rw [wiped_of_frozen h]
    | false =>
      rw [wiped_of_writable h]
      exact places_congr ((clears_update m a.id _).length r.id)

/-- What was wiped before does not decide whether a wipe is refused, nor why. -/
theorem wipe_wiped_eq_error_iff (m : Memory) (a b : Option Ref) (e : MemoryError) :
    (m.wiped a).wipe b = .error e ↔ m.wipe b = .error e := by
  cases b with
  | none => exact ⟨nofun, nofun⟩
  | some r =>
    cases h : m.isFrozen r.id with
    | true => rw [wipe_of_frozen h, wipe_of_frozen (by rwa [isFrozen_wiped])]
    | false =>
      rw [wipe_of_writable h, wipe_of_writable (by rwa [isFrozen_wiped])]
      exact ⟨nofun, nofun⟩

/-- Nor where it writes. -/
theorem wiped_wiped_some (m : Memory) (a : Option Ref) (r : Ref) :
    (m.wiped a).wiped (some r) =
      if m.isFrozen r.id then m.wiped a else (m.wiped a).update r.id (zeroAt (m.places r)) := by
  cases h : m.isFrozen r.id with
  | true => exact wiped_of_frozen (by rwa [isFrozen_wiped])
  | false => rw [wiped_of_writable (by rwa [isFrozen_wiped]), places_wiped, if_neg Bool.false_ne_true]

theorem wiped_wiped (m : Memory) (a : Option Ref) : (m.wiped a).wiped a = m.wiped a := by
  cases a with
  | none => rfl
  | some r =>
    rw [wiped_wiped_some]
    cases h : m.isFrozen r.id with
    | true => rfl
    | false =>
      rw [if_neg Bool.false_ne_true, wiped_of_writable h, update_update]
      exact update_congr (zeroAt_zeroAt _ _)

theorem wiped_comm (m : Memory) (a b : Option Ref) : (m.wiped a).wiped b = (m.wiped b).wiped a := by
  cases a with
  | none => rfl
  | some r =>
    cases b with
    | none => rfl
    | some r' =>
      rw [wiped_wiped_some, wiped_wiped_some]
      cases h : m.isFrozen r.id <;> cases h' : m.isFrozen r'.id
      · rw [wiped_of_writable h, wiped_of_writable h', if_neg Bool.false_ne_true, if_neg Bool.false_ne_true]
        by_cases hid : r.id = r'.id
        · rw [hid, update_update, update_update]
          exact update_congr (zeroAt_comm _ _ _)
        · exact update_comm m hid _ _
      · rw [wiped_of_writable h, wiped_of_frozen h']
        rfl
      · rw [wiped_of_frozen h, wiped_of_writable h']
        rfl
      · rw [wiped_of_frozen h, wiped_of_frozen h']
        rfl

/-! ## Wiping a buffer or what slices leave of it -/

/-- **A wipe zeroes what it is given, and nothing else.** Whatever lies in memory, take a buffer, or the window that
is left of it by any chain of slices whose steps are not zero, forwards or backwards. The window shows the bytes at
places at equal distances, all of them in the buffer. If the buffer is writable, the wipe succeeds, and afterwards the bytes
at these places are zero; every other byte of it, every other buffer and all lengths are as before. If it is
frozen, the wipe is refused, also for a window that shows nothing. Without an argument nothing happens.

A wipe that is done again changes nothing more, and two wipes may change places: the memory after both is the same,
and each is refused in the one order, and for the reason, that it is in the other. -/
theorem wipe_exact (m : Memory) (id : BufferId) {chain : List Slice} (hchain : ∀ s ∈ chain, s.step ≠ some 0) :
    let v := Stride.ofSlices (m.bytes id).length chain
    (∃ r, m.view id chain = .ok r ∧ v.Within (m.bytes id).length ∧
      m.read r = v.places.map (fun i => (m.bytes id).getD i 0) ∧
      (m.isFrozen id = false → ∃ m', m.wipe (some r) = .ok m' ∧ Clears m m' id v.Covers) ∧
      (m.isFrozen id = true →
        m.wipe (some r) = .error (if chain = [] then .frozenBuffer else .frozenWindow) ∧
          m.wiped (some r) = m)) ∧
    m.wipe none = .ok m ∧
    (∀ a, (m.wiped a).wiped a = m.wiped a) ∧
    (∀ a b, (m.wiped a).wiped b = (m.wiped b).wiped a) ∧
    ∀ a b e, (m.wiped a).wipe b = .error e ↔ m.wipe b = .error e := by
  intro v
  obtain ⟨r, hr, hid, hwindow, hplaces, hwithin⟩ := m.exists_view id hchain
  have hread : m.read r = v.places.map fun i => (m.bytes id).getD i 0 := by rw [read_eq, hplaces, hid]
  refine ⟨⟨r, hr, hwithin, hread, fun h => ?_, fun h => ?_⟩, rfl, m.wiped_wiped, m.wiped_comm,
    m.wipe_wiped_eq_error_iff⟩
  · refine ⟨_, wipe_of_writable (by rwa [hid]), ?_⟩
    rw [hid, hplaces]
    exact (clears_update m id _).congr fun i => (Stride.mem_places hwithin).symm
  · have hf : m.isFrozen r.id = true := by rwa [hid]
    refine ⟨?_, wiped_of_frozen hf⟩
    rw [wipe_of_frozen hf, hwindow]
    cases chain <;> rfl

/-- Every second byte of eight, backwards; of these all but the first; and of these every second, backwards. -/
theorem wipe_exact_backwards :
    let m : Memory := ⟨[⟨List.replicate 8 255, false, 1⟩, ⟨[7], false, 0⟩]⟩
    let chain : List Slice := [⟨none, none, some (-2)⟩, ⟨some 1, none, none⟩, ⟨none, none, some (-2)⟩]
    (∀ s ∈ chain, s.step ≠ some 0) ∧ m.view 0 chain = .ok (.window 0 [1, 5]) ∧
      ∃ m', m.wipe (some (.window 0 [1, 5])) = .ok m' ∧ (m'.bytes 0)[1]? = some 0 ∧
        (m'.bytes 0)[5]? = some 0 ∧ (m'.bytes 0)[3]? = some 255 ∧ m'.bytes 1 = [7] := by
  intro m chain
  have hchain : ∀ s ∈ chain, s.step ≠ some 0 := by simp [chain]
  have hview : m.view 0 chain = .ok (.window 0 [1, 5]) := by decide +kernel
  obtain ⟨⟨r, hr, -, -, hwritable, -⟩, -⟩ := wipe_exact m 0 hchain
  obtain rfl : Ref.window 0 [1, 5] = r := Except.ok.inj (hview.symm.trans hr)
  obtain ⟨m', hm', hclears⟩ := hwritable rfl
  exact ⟨hchain, hview, m', hm', hclears.zero 1 (by decide) (by decide +kernel),
    hclears.zero 5 (by decide) (by decide +kernel),
    hclears.kept 3 (by decide +kernel), hclears.others 1 (by decide)⟩

end KeyRecovery.Memory
