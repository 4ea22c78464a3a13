import KeyRecovery.Proofs.Key.Derivation

/-!
# What is left of a derivation

* `Memory.Blank m W` : outside of `W`, all buffers that can be written hold zeros;
* `Chain.blank_rounds`, `Chain.blank_stretch`, `Chain.blank_run` : a chain leaves nothing but its key;
* `blank_derive`, `blank_deriveAndWipe` : nor does a derivation; and of a key that is lent, nothing is left.
-/

namespace KeyRecovery

variable {σ ε γ : Type}

namespace Memory

theorem bytes_allocAs_of_ne (frozen : Bool) (m : Memory) (b : List UInt8) {id : BufferId}
    (h : id ≠ (m.allocAs frozen b).1) : (m.allocAs frozen b).2.bytes id = m.bytes id := by
  by_cases hid : m.Holds id
  · exact bytes_allocAs frozen m b hid
  · have hlt : ¬ (m.allocAs frozen b).2.Holds id := by
      have hlen : m.buffers.length ≤ id := Nat.le_of_not_lt hid
      simpa [Holds, allocAs] using Nat.succ_le_of_lt (Nat.lt_of_le_of_ne hlen (Ne.symm h))
    rw [bytes_of_not_holds hid, bytes_of_not_holds hlt]

def Blank (m : Memory) (W : BufferId → Prop) : Prop :=
  ∀ id, m.isFrozen id = false → ¬ W id → ∃ n, m.bytes id = List.replicate n 0

namespace Blank

variable {m : Memory} {W W' : BufferId → Prop} {id : BufferId}

theorem mono (h : m.Blank W) (hW : ∀ id, W id → W' id) : m.Blank W' :=
  fun id hf hn => h id hf fun hw => hn (hW id hw)

theorem update (h : m.Blank W) (hid : W id) (f : List UInt8 → List UInt8) : (m.update id f).Blank W := by
  intro other hf hn
  have hne : other ≠ id := fun heq => hn (heq ▸ hid)
  rw [bytes_update_other m hne]
  exact h other (isFrozen_update m id other f ▸ hf) hn

/-- What is zeroed counts no more. -/
theorem zero (h : m.Blank fun other => W other ∨ other = id) : (m.zero id).Blank W := by
  intro other hf hn
  rw [bytes_zero]
  split
  · exact ⟨_, rfl⟩
  · next hne =>
    exact h other (isFrozen_zero m id other ▸ hf) fun hw => hw.elim hn hne

theorem empty (W : BufferId → Prop) : Memory.empty.Blank W := fun _ _ _ => ⟨0, rfl⟩

/-- A new buffer does not count if it is frozen. -/
theorem frozen (h : m.Blank W) (b : List UInt8) : (m.allocAs true b).2.Blank W := by
  intro other hf hn
  rw [isFrozen_allocAs] at hf
  split at hf
  · cases hf
  · next hne =>
    rw [bytes_allocAs_of_ne true m b hne]
    exact h other hf hn

theorem alloc (h : m.Blank W) (b : List UInt8) :
    (m.alloc b).2.Blank fun other => W other ∨ other = (m.alloc b).1 := by
  intro other hf hn
  rw [isFrozen_alloc] at hf
  have hn := not_or.1 hn
  rw [Memory.alloc, bytes_allocAs_of_ne false m b hn.2]
  exact h other hf hn.1

end Blank

end Memory

open Memory (Blank)

/-! ## A chain -/

namespace Chain

variable (hash : Hasher σ ε) {W : BufferId → Prop}

theorem blank_rounds {work : BufferId} (hw : W work) :
    ∀ (n count : Nat) {m : Memory} (s : σ), m.Blank W → (rounds hash work n count m s).2.1.Blank W := by
  intro n
  induction n with
  | zero => exact fun _ _ _ h => h
  | succ n ih =>
    intro count m s h
    cases hh : hash s (m.bytes work) with
    | mk answer s₁ =>
      cases answer with
      | error e =>
        rw [rounds_succ_error n count hh]
        exact h
      | ok d =>
        rw [rounds_succ_ok n count hh]
        exact ih (count + 1) s₁ ((h.update hw _).update hw _)

theorem blank_stretch (n : Nat) {work : BufferId} (hw : W work) (packed salt : Ref) {m : Memory} (s : σ)
    (h : m.Blank W) :
    (stretch hash n work packed salt m s).2.1.Blank fun id =>
      W id ∨ (stretch hash n work packed salt m s).1 = .ok id := by
  unfold stretch
  cases hash s (m.read packed) with
  | mk answer s₁ =>
    cases answer with
    | error e => exact h.mono fun id => .inl
    | ok d =>
      simp only
      let m₁ := m.overwrite work 0 d.bytes
      let m₂ := m₁.overwrite work saltOffset (m₁.read salt)
      have hm₂ : m₂.Blank W := (h.update hw _).update hw _
      have hr := blank_rounds hash hw n 0 s₁ hm₂
      generalize rounds hash work n 0 m₂ s₁ = x at hr
      obtain ⟨answer, m', s'⟩ := x
      cases answer with
      | error e => exact hr.mono fun id => .inl
      | ok u => exact (hr.alloc _).mono fun id => Or.imp_right fun hid => congrArg Except.ok hid.symm

theorem blank_run (n : Nat) (packed salt : Ref) {m : Memory} (s : σ) (h : m.Blank W) :
    (run hash n packed salt m s).memory.Blank fun id =>
      W id ∨ (run hash n packed salt m s).result = .ok id := by
  unfold run
  split
  · exact h.mono fun id => .inl
  · split
    · exact h.mono fun id => .inl
    · simp only
      let work := (m.alloc (List.replicate stateLength 0)).1
      have hs := blank_stretch hash n (W := fun id => W id ∨ id = work) (.inr rfl) packed salt s
        (h.alloc (List.replicate stateLength 0))
      refine Blank.zero (hs.mono fun id hid => ?_)
      rcases hid with (hid | hid) | hid
      · exact .inl (.inl hid)
      · exact .inr hid
      · refine .inl (.inr ?_)
        rw [hid]
        rfl

end Chain

/-! ## A derivation -/

section

variable (hash : Hasher σ ε) (n : Nat) (threshold : Int) (password : List Char) (salt : Ref) {m : Memory}
  (s : σ) {W : BufferId → Prop}

theorem blank_derive (h : m.Blank W) :
    (derive hash n threshold password salt m s).memory.Blank fun id =>
      W id ∨ (derive hash n threshold password salt m s).result = .ok id := by
  cases hp : Password.shortValues password with
  | error e =>
    rw [derive_of_rejected hash n threshold salt m s hp]
    exact h.mono fun id => .inl
  | ok ns =>
    rw [derive_of_accepted hash n threshold salt m s hp]
    have hr := Chain.blank_run hash n (.buffer m.buffers.length) salt s (h.alloc (Packed.bytes ns))
    refine Blank.zero (hr.mono fun id hid => ?_)
    rcases hid with (hid | hid) | hid
    · exact .inl (.inl hid)
    · exact .inr hid
    · refine .inl (.inr ?_)
      simp only [hid]
      rfl

theorem blank_deriveAndWipe (h : m.Blank W) (consumer : BufferId → Memory → γ × Memory)
    (hc : ∀ key m, (consumer key m).2 = m) :
    (deriveAndWipe hash n threshold password salt m s consumer).memory.Blank W := by
  have hd := blank_derive hash n threshold password salt s h
  cases hr : (derive hash n threshold password salt m s).result with
  | error e =>
    rw [deriveAndWipe_of_error hash n threshold password salt m s consumer hr]
    refine hd.mono fun id hid => hid.resolve_right ?_
    rw [hr]
    nofun
  | ok key =>
    rw [deriveAndWipe_of_ok hash n threshold password salt m s consumer hr]
    simp only [hc]
    refine Blank.zero (hd.mono fun id hid => hid.imp_right fun heq => ?_)
    rw [hr] at heq
    exact (Except.ok.inj heq).symm

end

end KeyRecovery
