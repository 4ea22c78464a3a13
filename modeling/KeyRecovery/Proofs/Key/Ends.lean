import KeyRecovery.Proofs.Key.Blank

/-!
# The ends of a derivation

* `forget_derive` : a derivation goes as without a list of the calls of its hash;
* `bytes_packed_derive`, `bytes_key_derive` : the packed values are gone after it, the key of the chain is not;
* `log_derive`, `derive_log_free` : its log, and that nothing else depends on the threshold of the log;
* `derive_traceless` : so whatever the hash does, no more than the key is left.
-/

namespace KeyRecovery

variable {σ ε : Type}

/-! ## The calls of its hash -/

/-- A derivation with a recorder's state, without the calls. -/
def Derivation.forget (d : Derivation (σ × List (Chain.Call ε)) ε) : Derivation σ ε :=
  ⟨d.memory, d.observer.1, d.packed, d.words, d.log, d.result⟩

theorem forget_derive (hash : Hasher σ ε) (n : Nat) (threshold : Int) (password : List Char) (salt : Ref)
    (m : Memory) (s : σ) :
    (derive (Chain.recorded hash) n threshold password salt m (s, [])).forget =
      derive hash n threshold password salt m s := by
  cases h : Password.shortValues password with
  | error e =>
    rw [derive_of_rejected _ n threshold salt m _ h, derive_of_rejected hash n threshold salt m s h]
    rfl
  | ok ns =>
    rw [derive_of_accepted _ n threshold salt m _ h, derive_of_accepted hash n threshold salt m s h]
    simp only [Chain.forget_run hash]
    rfl

/-! ## What is left -/

section Left

variable (hash : Hasher σ ε) (n : Nat) (threshold : Int) {password : List Char} {salt : Ref} {m : Memory}
  (s : σ) {ns : List Nat}

theorem bytes_packed_derive (h : Password.shortValues password = .ok ns) (hs : m.Holds salt.id) :
    (derive hash n threshold password salt m s).memory.bytes m.buffers.length = List.replicate 16 0 := by
  rw [derive_of_accepted hash n threshold salt m s h]
  show (Memory.zero _ _).bytes _ = _
  rw [Memory.bytes_zero, if_pos rfl, (Chain.run_packed hash n (Packed.bytes ns) s hs).2.1, length_packed h]

theorem bytes_key_derive (h : Password.shortValues password = .ok ns) (hs : m.Holds salt.id) {key : BufferId}
    (hkey : (derive hash n threshold password salt m s).result = .ok key) :
    (derive hash n threshold password salt m s).memory.bytes key =
      (Chain.run hash n (.buffer m.buffers.length) salt (m.alloc (Packed.bytes ns)).2 s).memory.bytes key := by
  rw [derive_of_accepted hash n threshold salt m s h] at hkey ⊢
  obtain ⟨-, hne, -⟩ :=
    (Chain.run_packed hash n (Packed.bytes ns) s hs).2.2 key (Memory.eq_ok_of_mapError_ok hkey)
  show (Memory.zero _ _).bytes _ = _
  rw [Memory.bytes_zero, if_neg hne]

/-- Of the buffers that a derivation makes, only that of its key can hold anything but zeros. -/
theorem blank_new_derive (hash : Hasher σ ε) (n : Nat) (threshold : Int) (password : List Char) (salt : Ref)
    (m : Memory) (s : σ) {id : BufferId} (hid : ¬ m.Holds id)
    (hkey : (derive hash n threshold password salt m s).result ≠ .ok id) :
    ∃ k, (derive hash n threshold password salt m s).memory.bytes id = List.replicate k 0 := by
  have hnothing : m.Blank m.Holds := fun _ _ hn => ⟨0, Memory.bytes_of_not_holds hn⟩
  refine blank_derive hash n threshold password salt s hnothing id ?_ (not_or.2 ⟨hid, hkey⟩)
  rw [isFrozen_derive]
  exact Memory.isFrozen_of_not_holds hid

theorem log_derive (h : Password.shortValues password = .ok ns) :
    (derive hash n threshold password salt m s).log =
      if threshold ≤ Log.Severity.debug.rank then [Key.packedRecord (Packed.bytes ns)] else [] := by
  rw [derive_of_accepted hash n threshold salt m s h]
  by_cases ht : threshold ≤ Log.Severity.debug.rank
  · rw [if_pos ht]
    exact List.filter_cons_of_pos (decide_eq_true ht)
  · rw [if_neg ht]
    exact List.filter_cons_of_neg (by rwa [Log.Record.keptAt, decide_eq_true_eq])

theorem derive_log_free (password : List Char) (threshold' : Int) :
    derive hash n threshold' password salt m s =
      { derive hash n threshold password salt m s with
        log := (derive hash n threshold' password salt m s).log } := by
  cases h : Password.shortValues password with
  | error e => simp only [derive_of_rejected hash n _ salt m s h]
  | ok ns => simp only [derive_of_accepted hash n _ salt m s h]

end Left

/-- **A derivation leaves no trace.** Whatever the hash answers, and whichever of its calls fails:

* a rejected password is reported before anything is written, hashed or logged;
* for an accepted one there is one chain, which is given a new buffer with the short values as sixteen bytes,
  and whose key or failure is passed on;
* in the end, however the chain ended, this buffer holds sixteen zeros, the short values are zeros, and of all
  new buffers only that of the key holds anything else, which is what the chain left there;
* the log is one debug record with the packed values in hex if the threshold lets it pass, and nothing else
  depends on the threshold. -/
theorem derive_traceless (hash : Hasher σ ε) (n : Nat) (threshold : Int) (password : List Char) {salt : Ref}
    {m : Memory} (s : σ) (hs : m.Holds salt.id) :
    let d := derive hash n threshold password salt m s
    (∀ e, Password.shortValues password = .error e →
      d.result = .error (.password e) ∧ d.packed = none ∧ d.observer = s ∧ d.memory = m ∧ d.log = []) ∧
    (∀ ns, Password.shortValues password = .ok ns →
      let packed := m.buffers.length
      let bytes := ns.flatMap (LittleEndian.encode 2)
      let run := Chain.run hash n (.buffer packed) salt (m.alloc bytes).2 s
      d.packed = some (packed, bytes) ∧ (m.alloc bytes).2.bytes packed = bytes ∧ bytes.length = 16 ∧
      d.result = run.result.mapError .chain ∧ d.observer = run.observer ∧
      d.memory.bytes packed = List.replicate 16 0 ∧ d.words = List.replicate 8 0 ∧
      (∀ key, d.result = .ok key → d.memory.bytes key = run.memory.bytes key) ∧
      d.log = if threshold ≤ 10 then
        [⟨.debug, Key.logger, "Distilled password: '" ++ String.ofList (Hex.dump [' '] bytes) ++ "'"⟩]
        else []) ∧
    (∀ id, m.Holds id → d.memory.bytes id = m.bytes id) ∧
    (∀ id, ¬ m.Holds id → d.result ≠ .ok id → ∃ k, d.memory.bytes id = List.replicate k 0) ∧
    ∀ threshold', derive hash n threshold' password salt m s =
      { d with log := (derive hash n threshold' password salt m s).log } := by
  intro d
  refine ⟨fun e he => ?_, fun ns hns => ?_, ?_, ?_, ?_⟩
  · have hd : d = _ := derive_of_rejected hash n threshold salt m s he
    rw [hd]
    exact ⟨rfl, rfl, rfl, rfl, rfl⟩
  · intro packed bytes run
    have hd : d = _ := derive_of_accepted hash n threshold salt m s hns
    have hwords : d.words = List.replicate 8 0 := by
      rw [hd]
      show ns.map (fun _ => 0) = _
      rw [List.map_const', Password.length_of_shortValues hns]
      rfl
    have hgiven : (m.alloc bytes).2.bytes packed = bytes := Memory.bytes_allocAs_self false m bytes
    refine ⟨?_, hgiven, length_packed hns, ?_, ?_, bytes_packed_derive hash n threshold s hns hs, hwords,
      fun key hkey => bytes_key_derive hash n threshold s hns hs hkey, log_derive hash n threshold s hns⟩
    all_goals
      rw [hd]
      rfl
  · exact fun id hid => (derive_kept hash n threshold password salt m s hs).1.bytes id hid not_false
  · exact fun id hid hkey => blank_new_derive hash n threshold password salt m s hid hkey
  · exact fun threshold' => derive_log_free hash n threshold s password threshold'

/-- A hash that fails at its second call, with a log, and one that answers, without. -/
theorem derive_traceless_failing :
    let p := Password.encode [12345, 100, 54321, 7, 65535, 1000, 4242, 31337]
    let hash (bad : Nat) : Hasher Nat String := fun k message =>
      (if k = bad then .error "no entropy" else
        .ok ⟨List.replicate 32 (UInt8.ofNat (message.length + k)), List.length_replicate⟩, k + 1)
    let m : Memory := ⟨[⟨List.replicate 16 2, true, 0⟩]⟩
    let d (bad : Nat) (threshold : Int) := derive (hash bad) 1 threshold p (.buffer 0) m 0
    (d 1 10).result = .error (.chain (.hash "no entropy")) ∧ (d 1 10).observer = 2 ∧
      (d 1 10).memory.bytes 1 = List.replicate 16 0 ∧ (d 1 10).words = List.replicate 8 0 ∧
      (d 1 10).log.map Log.Record.severity = [.debug] ∧ (d 1 20).log = [] ∧
      ∃ key, (d 9 20).result = .ok key ∧ (d 9 20).memory.bytes key = List.replicate 32 89 := by
  intro p hash m d
  have hs : m.Holds (Ref.buffer 0).id := by show 0 < 1; decide
  have hp : Password.shortValues p = .ok [12345, 100, 54321, 7, 65535, 1000, 4242, 31337] :=
    Password.shortValues_encode rfl (by decide)
  have h (bad : Nat) (threshold : Int) := (derive_traceless (hash bad) 1 threshold p 0 hs).2.1 _ hp
  obtain ⟨-, -, -, hres, hobs, hzero, hwords, -, hlog⟩ := h 1 10
  obtain ⟨-, -, -, -, -, -, -, -, hquiet⟩ := h 1 20
  obtain ⟨-, -, -, hok, -, -, -, hkey, -⟩ := h 9 20
  refine ⟨hres, hobs, hzero, hwords, ?_, hquiet, 3, hok, ?_⟩
  · rw [hlog]
    rfl
  · rw [hkey 3 hok]
    decide +kernel

end KeyRecovery
