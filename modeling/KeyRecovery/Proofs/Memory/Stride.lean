import KeyRecovery.Memory.Lemmas
import KeyRecovery.Memory.Slice
import Mathlib.Tactic.Ring

/-!
# Where the bytes of a window lie

A slice of a slice selects places at equal distances again, whatever the directions of the two.

* `Slice.lt_count_iff`, `Slice.within_bounds` : the places of one slice, none of them outside;
* `Stride`, `Stride.slice`, `Stride.ofSlices` : places at equal distances, a slice of them, and what is left of
  all places after a chain of slices;
* `Stride.Within`, `Stride.within_slice`, `Stride.places_slice` : slicing them stays inside, and picks from them;
* `Memory.places`, `Memory.read_eq`, `Memory.view` : the places of what a reference shows, and the window that a
  chain of slices is;
* `Memory.exists_view` : there is such a window for each chain without a zero step, and its places are those of
  the stride.
-/

namespace KeyRecovery

namespace Slice

/-! ## One slice -/

theorem lt_count_iff {start stop step : Int} (h : step ≠ 0) (k : Nat) :
    k < count start stop step ↔
      if 0 < step then start + k * step < stop else stop < start + k * step := by
  unfold count
  split
  · next hpos =>
    rw [Int.lt_toNat, ← Int.add_one_le_iff, Int.le_ediv_iff_mul_le hpos, Int.add_mul]
    omega
  · next hneg =>
    have hpos : 0 < -step := by omega
    rw [Int.lt_toNat, ← Int.add_one_le_iff, Int.le_ediv_iff_mul_le hpos, Int.add_mul, Int.mul_neg]
    omega

theorem bounds_of_pos (s : Slice) (n : Nat) {step : Int} (h : 0 < step) :
    0 ≤ (s.bounds n step).1 ∧ (s.bounds n step).2 ≤ n := by
  unfold bounds
  rw [if_pos h]
  refine ⟨?_, ?_⟩
  · cases s.start <;> simp [clamp]
  · cases s.stop <;> simp [clamp]

theorem bounds_of_not_pos (s : Slice) (n : Nat) {step : Int} (h : ¬ 0 < step) :
    (s.bounds n step).1 < n ∧ -1 ≤ (s.bounds n step).2 := by
  unfold bounds
  rw [if_neg h]
  refine ⟨?_, ?_⟩
  · cases s.start with
    | none => simp
    | some i =>
      simp only [Option.map_some, Option.getD_some, clamp]
      omega
  · cases s.stop <;> simp [clamp]

/-- A missing step is one. -/
theorem step_ne_zero {s : Slice} (h : s.step ≠ some 0) : s.step.getD 1 ≠ 0 := by
  cases hs : s.step with
  | none => simp
  | some i => simpa [hs] using h

theorem within_bounds (s : Slice) (n : Nat) {step : Int} (h : step ≠ 0) {k : Nat}
    (hk : k < count (s.bounds n step).1 (s.bounds n step).2 step) :
    0 ≤ (s.bounds n step).1 + k * step ∧ (s.bounds n step).1 + k * step < n := by
  rw [lt_count_iff h] at hk
  split at hk
  · next hpos =>
    have hmul : 0 ≤ (k : Int) * step := Int.mul_nonneg (Int.natCast_nonneg k) (Int.le_of_lt hpos)
    have hb := s.bounds_of_pos n hpos
    omega
  · next hneg =>
    have hmul : (k : Int) * step ≤ 0 :=
      Int.mul_nonpos_of_nonneg_of_nonpos (Int.natCast_nonneg k) (Int.not_lt.1 hneg)
    have hb := s.bounds_of_not_pos n hneg
    omega

end Slice

/-! ## Places at equal distances -/

/-- Places at equal distances: the first one, the step from each to the next, and how many they are. -/
structure Stride where
  first : Int
  step : Int
  count : Nat

namespace Stride

/-- The `k`-th place. -/
def place (v : Stride) (k : Nat) : Int := v.first + k * v.step

def places (v : Stride) : List Nat := (List.range v.count).map fun k => (v.place k).toNat

/-- One of the places. -/
def Covers (v : Stride) (i : Nat) : Prop := ∃ k < v.count, v.place k = i

instance (v : Stride) (i : Nat) : Decidable (v.Covers i) :=
  inferInstanceAs (Decidable (∃ k < v.count, v.place k = i))

/-- All places of a sequence of length `n`. -/
def whole (n : Nat) : Stride := ⟨0, 1, n⟩

def slice (v : Stride) (s : Slice) : Stride :=
  let step := s.step.getD 1
  let (start, stop) := s.bounds v.count step
  ⟨v.first + start * v.step, v.step * step, Slice.count start stop step⟩

def ofSlices (n : Nat) (chain : List Slice) : Stride := chain.foldl slice (whole n)

/-- All places lie in a sequence of length `n`. -/
def Within (v : Stride) (n : Nat) : Prop := ∀ k < v.count, 0 ≤ v.place k ∧ v.place k < n

variable {v : Stride} {n : Nat} {s : Slice}

theorem mem_places (h : v.Within n) {i : Nat} : i ∈ v.places ↔ v.Covers i := by
  simp only [places, List.mem_map, List.mem_range, Covers]
  refine exists_congr fun k => and_congr_right fun hk => ?_
  have := (h k hk).1
  omega

theorem length_places (v : Stride) : v.places.length = v.count := by simp [places]

theorem places_whole (n : Nat) : (whole n).places = List.range n := by
  simp [places, place, whole]

theorem within_whole (n : Nat) : (whole n).Within n := by
  intro k (hk : k < n)
  simp only [place, whole]
  omega

/-- A selected place is one of the places selected from. -/
theorem place_slice (hs : s.step ≠ some 0) {k : Nat} (hk : k < (v.slice s).count) :
    ∃ j < v.count, (j : Int) = (s.bounds v.count (s.step.getD 1)).1 + k * s.step.getD 1 ∧
      (v.slice s).place k = v.place j := by
  obtain ⟨hlow, hhigh⟩ := s.within_bounds v.count (Slice.step_ne_zero hs) hk
  obtain ⟨j, hj⟩ := Int.eq_ofNat_of_zero_le hlow
  refine ⟨j, by omega, hj.symm, ?_⟩
  simp only [place, slice, ← hj]
  ring

theorem within_slice (h : v.Within n) (hs : s.step ≠ some 0) : (v.slice s).Within n := by
  intro k hk
  obtain ⟨j, hj, -, hplace⟩ := place_slice hs hk
  rw [hplace]
  exact h j hj

theorem places_slice (hs : s.step ≠ some 0) :
    ∃ picked, s.places v.count = .ok picked ∧ (∀ j ∈ picked, j < v.count) ∧
      (v.slice s).places = picked.map fun j => v.places.getD j 0 := by
  have hok : s.places v.count = .ok ((List.range (v.slice s).count).map fun (k : Nat) =>
      ((s.bounds v.count (s.step.getD 1)).1 + k * s.step.getD 1).toNat) := by
    unfold Slice.places
    simp only [Slice.step_ne_zero hs, if_false]
    rfl
  refine ⟨_, hok, fun j hj => ?_, ?_⟩
  · obtain ⟨k, hk, rfl⟩ := List.mem_map.1 hj
    obtain ⟨j, hj, heq, -⟩ := place_slice hs (List.mem_range.1 hk)
    rwa [← heq, Int.toNat_natCast]
  · rw [places, List.map_map]
    refine List.map_congr_left fun k hk => ?_
    obtain ⟨j, hj, heq, hplace⟩ := place_slice hs (List.mem_range.1 hk)
    simp [hplace, ← heq, places, hj]

end Stride

/-! ## Windows -/

namespace Memory

variable {m : Memory} {r : Ref} {s : Slice} {v : Stride} {n : Nat}

def places (m : Memory) : Ref → List Nat
  | .buffer id => List.range (m.bytes id).length
  | .window _ places => places

theorem read_eq (m : Memory) (r : Ref) :
    m.read r = (m.places r).map fun i => (m.bytes r.id).getD i 0 := by
  cases r with
  | window id places => rfl
  | buffer id =>
    apply List.ext_getElem?
    intro i
    by_cases h : i < (m.bytes id).length <;> simp [read, places, Ref.id, h]

def view (m : Memory) (id : BufferId) (chain : List Slice) : Except MemoryError Ref :=
  chain.foldlM m.slice (.buffer id)

/-- A buffer is sliced like a window that shows all of it. -/
theorem slice_eq (hr : m.places r = v.places) (hs : s.step ≠ some 0) :
    m.slice r s = .ok (.window r.id (v.slice s).places) := by
  obtain ⟨picked, hpicked, hlt, hslice⟩ := Stride.places_slice (v := v) hs
  have hcount : v.count = (m.places r).length := by rw [hr, Stride.length_places]
  rw [hcount] at hpicked hlt
  cases r with
  | window id shown =>
    have hshown : shown = v.places := hr
    rw [hslice, ← hshown]
    simp only [slice, show s.places shown.length = .ok picked from hpicked]
    rfl
  | buffer id =>
    have hrange : List.range (m.bytes id).length = v.places := hr
    have hsame : (picked.map fun j => v.places.getD j 0) = picked := by
      refine (List.map_congr_left fun j hj => ?_).trans (List.map_id picked)
      have hj : j < (m.bytes id).length := by simpa [places] using hlt j hj
      simp [← hrange, hj]
    rw [hslice, hsame]
    simp only [places, List.length_range] at hpicked
    simp only [slice, hpicked]
    rfl

/-- What follows the places of a stride follows them when both are sliced. -/
theorem exists_foldlM_slice {chain : List Slice} (hchain : ∀ s ∈ chain, s.step ≠ some 0)
    (hr : m.places r = v.places) (hv : v.Within n) :
    ∃ w, chain.foldlM m.slice r = .ok w ∧ w.id = r.id ∧ w.isWindow = (r.isWindow || !chain.isEmpty) ∧
      m.places w = (chain.foldl Stride.slice v).places ∧ (chain.foldl Stride.slice v).Within n := by
  induction chain generalizing r v with
  | nil => exact ⟨r, rfl, rfl, by simp, hr, hv⟩
  | cons s chain ih =>
    obtain ⟨hs, hchain⟩ := List.forall_mem_cons.1 hchain
    obtain ⟨w, hw, hid, hwindow, hplaces, hwithin⟩ :=
      ih (r := .window r.id (v.slice s).places) hchain rfl (Stride.within_slice hv hs)
    refine ⟨w, ?_, hid, ?_, hplaces, hwithin⟩
    · rw [List.foldlM_cons, slice_eq hr hs]
      exact hw
    · rw [hwindow]
      simp [Ref.isWindow]

theorem exists_view (m : Memory) (id : BufferId) {chain : List Slice} (h : ∀ s ∈ chain, s.step ≠ some 0) :
    let v := Stride.ofSlices (m.bytes id).length chain
    ∃ r, m.view id chain = .ok r ∧ r.id = id ∧ r.isWindow = !chain.isEmpty ∧ m.places r = v.places ∧
      v.Within (m.bytes id).length :=
  exists_foldlM_slice (r := .buffer id) h (Stride.places_whole _).symm (Stride.within_whole _)

end Memory

end KeyRecovery
