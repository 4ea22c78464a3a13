import KeyRecovery.Key.Derivation
import KeyRecovery.Proofs.Key.Trace
import KeyRecovery.Proofs.Password.Codec

/-!
# What a derivation leaves in memory

* `Chain.isFrozen_run`, `isFrozen_derive` : a chain and a derivation freeze nothing and thaw nothing;
* `Chain.run_kept`, `derive_kept` : they leave every older buffer alone, and their key comes in a new
  buffer of 32 bytes;
* `derive_of_rejected`, `derive_of_accepted` : without short values nothing happens; with them there is one
  chain, on a new buffer with the packed values, which is zeroed in the end;
* `derive_of_saltLength` : nothing is hashed with a salt of another length;
* `Chain.run_packed` : what that chain leaves;
* `deriveAndWipe_of_error`, `deriveAndWipe_of_ok` : the two ends of a key that is lent.
-/

namespace KeyRecovery

open Memory (Frame SameKinds)

variable {σ ε : Type}

namespace Chain

/-! ## Frozen buffers -/

theorem isFrozen_rounds (hash : Hasher σ ε) (work id : BufferId) :
    ∀ (n count : Nat) (m : Memory) (s : σ),
      (rounds hash work n count m s).2.1.isFrozen id = m.isFrozen id := by
  intro n
  induction n with
  | zero => intros; rfl
  | succ n ih =>
    intro count m s
    cases hh : hash s (m.bytes work) with
    | mk answer s₁ =>
      cases answer with
      | error e => rw [rounds_succ_error n count hh]
      | ok d =>
        rw [rounds_succ_ok n count hh, ih, Memory.isFrozen_overwrite, Memory.isFrozen_overwrite]

theorem isFrozen_stretch (hash : Hasher σ ε) (n : Nat) (work : BufferId) (packed salt : Ref)
    (m : Memory) (s : σ) (id : BufferId) :
    (stretch hash n work packed salt m s).2.1.isFrozen id = m.isFrozen id := by
  unfold stretch
  cases hash s (m.read packed) with
  | mk answer s₁ =>
    cases answer with
    | error e => rfl
    | ok d =>
      simp only
      let m₁ := m.overwrite work 0 d.bytes
      let m₂ := m₁.overwrite work saltOffset (m₁.read salt)
      have hm₂ : m₂.isFrozen id = m.isFrozen id := by
        rw [Memory.isFrozen_overwrite, Memory.isFrozen_overwrite]
      have hr := (isFrozen_rounds hash work id n 0 m₂ s₁).trans hm₂
      generalize rounds hash work n 0 m₂ s₁ = x at hr
      obtain ⟨answer, m', s'⟩ := x
      cases answer with
      | error e => exact hr
      | ok u => exact (Memory.isFrozen_alloc m' _ id).trans hr

theorem isFrozen_run (hash : Hasher σ ε) (n : Nat) (packed salt : Ref) (m : Memory) (s : σ)
    (id : BufferId) : (run hash n packed salt m s).memory.isFrozen id = m.isFrozen id := by
  unfold run
  split
  · rfl
  · split
    · rfl
    · simp only [Memory.isFrozen_zero, isFrozen_stretch, Memory.isFrozen_alloc]

/-! ## Bytes -/

theorem run_kept (hash : Hasher σ ε) (n : Nat) {packed salt : Ref} {m : Memory} (s : σ)
    (hp : m.Holds packed.id) (hs : m.Holds salt.id) :
    Frame m (run hash n packed salt m s).memory (fun _ => False) ∧
      ∀ key, (run hash n packed salt m s).result = .ok key → ¬ m.Holds key ∧
        (run hash n packed salt m s).memory.Holds key ∧
        ((run hash n packed salt m s).memory.bytes key).length = digestLength := by
  by_cases hpl : (m.read packed).length = packedLength
  · by_cases hsl : (m.read salt).length = saltLength
    · obtain ⟨-, -, hframe, ds, hend⟩ := run_recorded hash n s hp hs hpl hsl
      rw [forget_run hash n packed salt m s]
      refine ⟨hframe, fun key hkey => ?_⟩
      rcases hend with ⟨key', -, -, hres, hnew, -, hhold, hbytes⟩ | ⟨e, -, -, hres⟩
      · obtain rfl : key' = key := by simpa [hres] using hkey
        exact ⟨hnew, hhold, by simp only [hbytes, length_lastBytes]⟩
      · simp [hres] at hkey
    · rw [run_of_saltLength hash n s hpl hsl]
      exact ⟨Frame.refl m _, by simp⟩
  · rw [run_of_packedLength hash n salt s hpl]
    exact ⟨Frame.refl m _, by simp⟩

end Chain

/-! ## Derivations -/

section Ends

variable (hash : Hasher σ ε) (n : Nat) (threshold : Int) {password : List Char} (salt : Ref) (m : Memory)
  (s : σ)

theorem derive_of_rejected {e : PasswordError} (h : Password.shortValues password = .error e) :
    derive hash n threshold password salt m s = ⟨m, s, none, [], [], .error (.password e)⟩ := by
  simp only [derive, h]

theorem derive_of_accepted {ns : List Nat} (h : Password.shortValues password = .ok ns) :
    derive hash n threshold password salt m s =
      let packed := m.buffers.length
      let run := Chain.run hash n (.buffer packed) salt (m.alloc (Packed.bytes ns)).2 s
      ⟨run.memory.zero packed, run.observer, some (packed, Packed.bytes ns), ns.map fun _ => 0,
        [Key.packedRecord (Packed.bytes ns)].filter (Log.Record.keptAt threshold),
        run.result.mapError .chain⟩ := by
  have hpack := Packed.pack_ofNat (Password.length_of_shortValues h)
    (Password.shortValues_eq_ok_iff.1 h).2.1
  simp only [derive, h, hpack]
  rfl

theorem length_packed {ns : List Nat} (h : Password.shortValues password = .ok ns) :
    (Packed.bytes ns).length = 16 := by
  rw [Packed.length_bytes, Password.length_of_shortValues h]
  rfl

theorem derive_of_saltLength {ns : List Nat} (h : Password.shortValues password = .ok ns)
    (hs : m.Holds salt.id) (hsl : (m.read salt).length ≠ 16) :
    (derive hash n threshold password salt m s).result =
        .error (.chain (.saltLength (m.read salt).length)) ∧
      (derive hash n threshold password salt m s).observer = s := by
  let m₁ := (m.alloc (Packed.bytes ns)).2
  have hsalt : m₁.read salt = m.read salt := (Frame.alloc m _ fun _ => False).read hs not_false
  have hpacked : m₁.read (.buffer m.buffers.length) = Packed.bytes ns := Memory.bytes_allocAs_self false m _
  have hlen : (m₁.read (.buffer m.buffers.length)).length = Chain.packedLength :=
    (congrArg List.length hpacked).trans (length_packed h)
  have hrun := Chain.run_of_saltLength hash n s hlen (by rwa [hsalt])
  rw [derive_of_accepted hash n threshold salt m s h]
  simp only [m₁] at hrun hsalt
  simp only [hrun, hsalt]
  exact ⟨rfl, trivial⟩

end Ends

theorem Chain.run_packed (hash : Hasher σ ε) (n : Nat) {salt : Ref} {m : Memory} (bytes : List UInt8) (s : σ)
    (hs : m.Holds salt.id) :
    let packed := m.buffers.length
    let run := run hash n (.buffer packed) salt (m.alloc bytes).2 s
    Frame m run.memory (fun _ => False) ∧ run.memory.bytes packed = bytes ∧
      ∀ key, run.result = .ok key → ¬ m.Holds key ∧ key ≠ packed ∧ run.memory.Holds key ∧
        (run.memory.bytes key).length = digestLength := by
  intro packed run
  have halloc : Frame m (m.alloc bytes).2 fun _ => False := Frame.alloc m bytes _
  have hpacked : (m.alloc bytes).2.Holds (Ref.buffer packed).id := Memory.holds_allocAs false m bytes
  obtain ⟨hframe, hkey⟩ := run_kept hash n s hpacked (halloc.holds hs)
  refine ⟨halloc.trans hframe, ?_, fun key hok => ?_⟩
  · exact (hframe.bytes packed hpacked not_false).trans (Memory.bytes_allocAs_self false m bytes)
  · obtain ⟨hnew, hhold, hlen⟩ := hkey key hok
    exact ⟨fun h => hnew (halloc.holds h), fun h => hnew (h ▸ hpacked), hhold, hlen⟩

section Derive

variable (hash : Hasher σ ε) (n : Nat) (threshold : Int) (password : List Char) (salt : Ref)
  (m : Memory) (s : σ)

theorem isFrozen_derive (id : BufferId) :
    (derive hash n threshold password salt m s).memory.isFrozen id = m.isFrozen id := by
  cases h : Password.shortValues password with
  | error e => rw [derive_of_rejected hash n threshold salt m s h]
  | ok ns =>
    rw [derive_of_accepted hash n threshold salt m s h]
    simp only [Memory.isFrozen_zero, Chain.isFrozen_run, Memory.isFrozen_alloc]

theorem derive_kept (hs : m.Holds salt.id) :
    Frame m (derive hash n threshold password salt m s).memory (fun _ => False) ∧
      ∀ key, (derive hash n threshold password salt m s).result = .ok key → ¬ m.Holds key ∧
        (derive hash n threshold password salt m s).memory.Holds key ∧
        ((derive hash n threshold password salt m s).memory.bytes key).length =
          Chain.digestLength := by
  cases h : Password.shortValues password with
  | error e =>
    rw [derive_of_rejected hash n threshold salt m s h]
    exact ⟨Frame.refl m _, nofun⟩
  | ok ns =>
    rw [derive_of_accepted hash n threshold salt m s h]
    obtain ⟨hframe, -, hkey⟩ := Chain.run_packed hash n (Packed.bytes ns) s hs
    have hzero := Frame.zero (Chain.run hash n (.buffer m.buffers.length) salt
      (m.alloc (Packed.bytes ns)).2 s).memory m.buffers.length
    have hall := (hframe.mono fun _ _ hW => hW.elim).trans hzero
    refine ⟨hall.mono fun id hid hW => Nat.ne_of_lt hid hW, fun key hok => ?_⟩
    obtain ⟨hnew, -, hhold, hlen⟩ := hkey key (Memory.eq_ok_of_mapError_ok hok)
    refine ⟨hnew, hzero.holds hhold, ?_⟩
    rw [Memory.length_bytes_zero]
    exact hlen

theorem sameKinds_derive (hs : m.Holds salt.id) :
    SameKinds m (derive hash n threshold password salt m s).memory :=
  ⟨(derive_kept hash n threshold password salt m s hs).1.grows,
    fun id _ => isFrozen_derive hash n threshold password salt m s id⟩

/-! ## Lent keys -/

variable {γ : Type} (consumer : BufferId → Memory → γ × Memory)

theorem deriveAndWipe_of_error {e : DeriveError ε}
    (h : (derive hash n threshold password salt m s).result = .error e) :
    deriveAndWipe hash n threshold password salt m s consumer =
      ⟨(derive hash n threshold password salt m s).memory, none,
        (derive hash n threshold password salt m s).log, .error e⟩ := by
  simp only [deriveAndWipe, h]

theorem deriveAndWipe_of_ok {key : BufferId}
    (h : (derive hash n threshold password salt m s).result = .ok key) :
    deriveAndWipe hash n threshold password salt m s consumer =
      ⟨(consumer key (derive hash n threshold password salt m s).memory).2.zero key, some key,
        (derive hash n threshold password salt m s).log,
        .ok (consumer key (derive hash n threshold password salt m s).memory).1⟩ := by
  simp only [deriveAndWipe, h]

end Derive

end KeyRecovery
