import KeyRecovery.Proofs.Key.State

/-!
# A hash that writes its calls down

* `Call`, `recorded` : what a hash was given and what it answered, and the hash that keeps a list of it;
* `forget_rounds`, `forget_stretch`, `forget_run` : a chain goes as without the list;
* `forall_calls_rounds`, `forall_calls_stretch`, `forall_calls_run` : what holds of all calls of a hash holds of
  those that a chain writes down.
-/

namespace KeyRecovery.Chain

variable {σ ε : Type}

structure Call (ε : Type) where
  given : List UInt8
  answer : Except ε Digest

def recorded (hash : Hasher σ ε) : Hasher (σ × List (Call ε)) ε := fun s message =>
  let (answer, s') := hash s.1 message
  (answer, s', s.2 ++ [⟨message, answer⟩])

/-- What a call returned, if it did. -/
def Call.returned? (c : Call ε) : Option (List UInt8) :=
  match c.answer with
  | .ok d => some d.bytes
  | .error _ => none

theorem recorded_eq {hash : Hasher σ ε} {s s' : σ} {message : List UInt8} {answer : Except ε Digest}
    (calls : List (Call ε)) (h : hash s message = (answer, s')) :
    recorded hash (s, calls) message = (answer, s', calls ++ [⟨message, answer⟩]) := by
  simp only [recorded, h]

/-! ## Without the list -/

/-- An outcome with a recorder's state, without the calls. -/
def forget {α : Type} (x : α × Memory × σ × List (Call ε)) : α × Memory × σ := (x.1, x.2.1, x.2.2.1)

theorem forget_rounds (hash : Hasher σ ε) (work : BufferId) :
    ∀ (n count : Nat) (m : Memory) (s : σ) (calls : List (Call ε)),
      forget (rounds (recorded hash) work n count m (s, calls)) = rounds hash work n count m s := by
  intro n
  induction n with
  | zero => intros; rfl
  | succ n ih =>
    intro count m s calls
    cases hh : hash s (m.bytes work) with
    | mk answer s₁ =>
      cases answer with
      | error e =>
        rw [rounds_succ_error n count (recorded_eq calls hh), rounds_succ_error n count hh]
        rfl
      | ok d =>
        rw [rounds_succ_ok n count (recorded_eq calls hh), rounds_succ_ok n count hh]
        exact ih _ _ _ _

theorem forget_stretch (hash : Hasher σ ε) (n : Nat) (work : BufferId) (packed salt : Ref)
    (m : Memory) (s : σ) (calls : List (Call ε)) :
    forget (stretch (recorded hash) n work packed salt m (s, calls)) =
      stretch hash n work packed salt m s := by
  unfold stretch
  cases hh : hash s (m.read packed) with
  | mk answer s₁ =>
    rw [recorded_eq calls hh]
    cases answer with
    | error e => rfl
    | ok d =>
      simp only
      rw [← forget_rounds hash work n 0 _ s₁ (calls ++ [⟨m.read packed, .ok d⟩])]
      generalize rounds (recorded hash) work n 0 _ _ = x
      obtain ⟨a, m', s'⟩ := x
      cases a <;> rfl

theorem forget_run (hash : Hasher σ ε) (n : Nat) (packed salt : Ref) (m : Memory) (s : σ) :
    let r := run (recorded hash) n packed salt m (s, [])
    run hash n packed salt m s = ⟨r.memory, r.observer.1, r.work, r.result⟩ := by
  intro r
  unfold r run
  by_cases hp : (m.read packed).length ≠ packedLength
  · rw [if_pos hp, if_pos hp]
  · rw [if_neg hp, if_neg hp]
    by_cases hs : (m.read salt).length ≠ saltLength
    · rw [if_pos hs, if_pos hs]
    · rw [if_neg hs, if_neg hs]
      simp only
      rw [← forget_stretch hash n _ packed salt _ s []]
      rfl

/-! ## All calls -/

section Every

variable {hash : Hasher σ ε} {P : Call ε → Prop}
  (hP : ∀ (s : σ) (message : List UInt8), P ⟨message, (hash s message).1⟩)
include hP

theorem forall_mem_concat {calls : List (Call ε)} (h : ∀ c ∈ calls, P c) {s s' : σ}
    {message : List UInt8} {answer : Except ε Digest} (hh : hash s message = (answer, s')) :
    ∀ c ∈ calls ++ [⟨message, answer⟩], P c := by
  have hnew : P ⟨message, answer⟩ := by simpa only [hh] using hP s message
  simpa [or_imp, forall_and] using And.intro h hnew

theorem forall_calls_rounds (work : BufferId) :
    ∀ (n count : Nat) (m : Memory) (s : σ) (calls : List (Call ε)), (∀ c ∈ calls, P c) →
      ∀ c ∈ (rounds (recorded hash) work n count m (s, calls)).2.2.2, P c := by
  intro n
  induction n with
  | zero => exact fun _ _ _ _ h => h
  | succ n ih =>
    intro count m s calls h
    cases hh : hash s (m.bytes work) with
    | mk answer s₁ =>
      have h' := forall_mem_concat hP h hh
      cases answer with
      | error e =>
        rw [rounds_succ_error n count (recorded_eq calls hh)]
        exact h'
      | ok d =>
        rw [rounds_succ_ok n count (recorded_eq calls hh)]
        exact ih _ _ _ _ h'

theorem forall_calls_stretch (n : Nat) (work : BufferId) (packed salt : Ref) (m : Memory) (s : σ)
    (calls : List (Call ε)) (h : ∀ c ∈ calls, P c) :
    ∀ c ∈ (stretch (recorded hash) n work packed salt m (s, calls)).2.2.2, P c := by
  unfold stretch
  cases hh : hash s (m.read packed) with
  | mk answer s₁ =>
    have h' := forall_mem_concat hP h hh
    rw [recorded_eq calls hh]
    cases answer with
    | error e => exact h'
    | ok d =>
      simp only
      have hr := forall_calls_rounds hP work n 0 ((m.overwrite work 0 d.bytes).overwrite work
        saltOffset ((m.overwrite work 0 d.bytes).read salt)) s₁ _ h'
      generalize rounds (recorded hash) work n 0 _ _ = x at hr ⊢
      obtain ⟨a, m', s', calls'⟩ := x
      cases a <;> exact hr

theorem forall_calls_run (n : Nat) (packed salt : Ref) (m : Memory) (s : σ) :
    ∀ c ∈ (run (recorded hash) n packed salt m (s, [])).observer.2, P c := by
  have hnone : ∀ c ∈ ([] : List (Call ε)), P c := fun _ hc => nomatch hc
  unfold run
  split
  · exact hnone
  · split
    · exact hnone
    · exact forall_calls_stretch hP n _ packed salt _ s [] hnone

end Every

end KeyRecovery.Chain
