import KeyRecovery.Proofs.Key.Recorder
import Mathlib.Algebra.Group.Nat.Defs

/-!
# The calls of a chain

* `input packed salt ds` : what is hashed next after the digests `ds`, and so what the working state
  holds from the first digest on;
* `callsFrom` : the calls that were answered by given digests;
* `rounds_recorded`, `stretch_recorded`, `run_recorded` : the calls of the rounds, of the work in a zeroed
  buffer and of a whole chain, with what they leave in memory;
* `run_trace` : so the calls follow the definition of the chain, and the working state is wiped.
-/

namespace KeyRecovery.Chain

variable {σ ε : Type}

/-- The last hash in a working state, after the digests of some rounds. -/
def lastBytes (ds : List Digest) : List UInt8 :=
  match ds.getLast? with
  | some d => d.bytes
  | none => List.replicate digestLength 0

def input (packed salt : List UInt8) : List Digest → List UInt8
  | [] => packed
  | first :: ds => state first.bytes salt (lastBytes ds) ds.length

def callsFrom (packed salt : List UInt8) (before : List Digest) : List Digest → List (Call ε)
  | [] => []
  | d :: ds => ⟨input packed salt before, .ok d⟩ :: callsFrom packed salt (before ++ [d]) ds

theorem length_lastBytes (ds : List Digest) : (lastBytes ds).length = digestLength := by
  unfold lastBytes
  split
  · exact Digest.length_bytes _
  · simp

theorem lastBytes_concat (ds : List Digest) (d : Digest) : lastBytes (ds ++ [d]) = d.bytes := by
  simp [lastBytes]

theorem input_concat (packed salt : List UInt8) {ds : List Digest} (hds : ds ≠ []) (d : Digest) :
    ∃ first last : List UInt8, first.length = digestLength ∧ last.length = digestLength ∧
      input packed salt ds = state first salt last (ds.length - 1) ∧
      input packed salt (ds ++ [d]) = state first salt d.bytes ds.length := by
  cases ds with
  | nil => exact absurd rfl hds
  | cons first ds =>
    refine ⟨first.bytes, lastBytes ds, first.length_bytes, length_lastBytes ds, rfl, ?_⟩
    rw [List.cons_append, input, lastBytes_concat, List.length_append, List.length_singleton,
      List.length_cons]

/-! ## Recorded calls -/

section Calls

variable (packed salt : List UInt8)

theorem length_callsFrom (before ds : List Digest) :
    (callsFrom packed salt before ds : List (Call ε)).length = ds.length := by
  induction ds generalizing before with
  | nil => rfl
  | cons d ds ih => simp [callsFrom, ih]

theorem getElem?_callsFrom (before ds : List Digest) (k : Nat) :
    (callsFrom packed salt before ds : List (Call ε))[k]? =
      ds[k]?.map fun d => ⟨input packed salt (before ++ ds.take k), .ok d⟩ := by
  induction ds generalizing before k with
  | nil => simp [callsFrom]
  | cons d ds ih =>
    cases k with
    | zero => simp [callsFrom]
    | succ k => simp [callsFrom, ih]

end Calls

/-! ## The rounds -/

variable {packed salt : List UInt8}

/-- The rounds of a chain on a working state that holds the next input: either all are answered, by
digests `ds'`, or the one after `ds'` fails. -/
theorem rounds_recorded (hash : Hasher σ ε) {work : BufferId} (hsalt : salt.length = saltLength) :
    ∀ (n count : Nat) (m : Memory) (s : σ) (calls : List (Call ε)) (ds : List Digest), m.Holds work →
      ds.length = count + 1 → m.bytes work = input packed salt ds →
      ∃ (ds' : List Digest) (m' : Memory) (s' : σ), Memory.Frame m m' (· = work) ∧
        m'.bytes work = input packed salt (ds ++ ds') ∧
        ((ds'.length = n ∧ rounds (recorded hash) work n count m (s, calls) =
            (.ok (), m', s', calls ++ callsFrom packed salt ds ds')) ∨
          ∃ e, ds'.length < n ∧ rounds (recorded hash) work n count m (s, calls) =
            (.error e, m', s',
              calls ++ callsFrom packed salt ds ds' ++
                [⟨input packed salt (ds ++ ds'), .error e⟩])) := by
  -- on the rounds that are left; what carries it is that the working state holds the next input
  intro n
  induction n with
  | zero =>
    intro count m s calls ds _ _ hb
    exact ⟨[], m, s, Memory.Frame.refl m _, by simpa using hb, .inl ⟨rfl, by simp [rounds, callsFrom]⟩⟩
  | succ n ih =>
    intro count m s calls ds hw hlen hb
    cases hh : hash s (m.bytes work) with
    | mk answer s₁ =>
      cases answer with
      | error e =>
        refine ⟨[], m, s₁, Memory.Frame.refl m _, by simpa using hb, .inr ⟨e, Nat.zero_lt_succ n, ?_⟩⟩
        rw [rounds_succ_error n count (recorded_eq calls hh), hb]
        simp [callsFrom]
      | ok d =>
        have hds : ds ≠ [] := List.ne_nil_of_length_pos (by omega)
        obtain ⟨first, last, hf, hl, hin, hnext⟩ := input_concat packed salt hds d
        let m₁ := (m.overwrite work hashOffset d.bytes).overwrite work counterOffset
          (LittleEndian.encode 8 (count + 1))
        have hframe : Memory.Frame m m₁ (· = work) :=
          (Memory.Frame.overwrite m work _ _).trans (Memory.Frame.overwrite _ work _ _)
        have hb₁ : m₁.bytes work = input packed salt (ds ++ [d]) := by
          rw [hnext, hlen]
          exact bytes_overwrite_state hw (hb.trans hin) hf hsalt hl d.length_bytes
        have hlen₁ : (ds ++ [d]).length = count + 1 + 1 := by
          rw [List.length_append, List.length_singleton, hlen]
        obtain ⟨ds', m', s', hfr, hb', hend⟩ := ih (count + 1) m₁ s₁
          (calls ++ [⟨m.bytes work, .ok d⟩]) (ds ++ [d]) (hframe.holds hw) hlen₁ hb₁
        have hcalls : calls ++ [⟨m.bytes work, .ok d⟩] ++ callsFrom packed salt (ds ++ [d]) ds' =
            calls ++ callsFrom packed salt ds (d :: ds') := by
          rw [callsFrom, hb, List.append_assoc, List.singleton_append]
        have hround : rounds (recorded hash) work (n + 1) count m (s, calls) =
            rounds (recorded hash) work n (count + 1) m₁
              (s₁, calls ++ [⟨m.bytes work, .ok d⟩]) :=
          rounds_succ_ok n count (recorded_eq calls hh)
        have happ : ds ++ [d] ++ ds' = ds ++ d :: ds' := by simp
        rw [happ] at hb'
        refine ⟨d :: ds', m', s', hframe.trans hfr, hb', ?_⟩
        rw [hround, ← hcalls, ← happ, List.length_cons]
        rcases hend with ⟨hn, hr⟩ | ⟨e, hn, hr⟩
        · exact .inl ⟨by omega, hr⟩
        · exact .inr ⟨e, by omega, hr⟩

/-! ## A whole chain -/

/-- The work of a chain in a zeroed buffer: all `n + 1` calls are answered, by digests `ds`, and the key
is the last hash of the rounds, or the call after `ds` fails. -/
theorem stretch_recorded (hash : Hasher σ ε) (n : Nat) {work : BufferId} (packed : Ref) {salt : Ref}
    {m : Memory} (s : σ) (hw : m.Holds work) (hb : m.bytes work = List.replicate stateLength 0)
    (hs : m.Holds salt.id) (hsw : salt.id ≠ work) (hsl : (m.read salt).length = saltLength) :
    ∃ (ds : List Digest) (m' : Memory) (s' : σ), Memory.Frame m m' (· = work) ∧
      (m'.bytes work).length = stateLength ∧
      ((∃ key, ds.length = n + 1 ∧ ¬ m.Holds key ∧ m'.Holds key ∧ m'.bytes key = lastBytes ds.tail ∧
          stretch (recorded hash) n work packed salt m (s, []) =
            (.ok key, m', s', callsFrom (m.read packed) (m.read salt) [] ds)) ∨
        ∃ e, ds.length ≤ n ∧ stretch (recorded hash) n work packed salt m (s, []) =
          (.error e, m', s', callsFrom (m.read packed) (m.read salt) [] ds ++
            [⟨input (m.read packed) (m.read salt) ds, .error e⟩])) := by
  cases hh : hash s (m.read packed) with
  | mk answer s₁ =>
    cases answer with
    | error e =>
      refine ⟨[], m, s₁, Memory.Frame.refl m _, by rw [hb, List.length_replicate],
        .inr ⟨e, Nat.zero_le n, ?_⟩⟩
      unfold stretch
      rw [recorded_eq [] hh]
      rfl
    | ok d =>
      let m₁ := m.overwrite work 0 d.bytes
      let m₂ := m₁.overwrite work saltOffset (m₁.read salt)
      have hframe₁ : Memory.Frame m m₁ (· = work) := Memory.Frame.overwrite m work _ _
      have hframe₂ : Memory.Frame m m₂ (· = work) :=
        hframe₁.trans (Memory.Frame.overwrite m₁ work _ _)
      have hsalt : m₁.read salt = m.read salt := hframe₁.read hs hsw
      have hb₂ : m₂.bytes work = input (m.read packed) (m.read salt) [d] := by
        rw [← hsalt] at hsl ⊢
        exact bytes_overwrite_zeros hw hb d.length_bytes hsl
      obtain ⟨ds, m', s', hfr, hb', hend⟩ := rounds_recorded hash hsl n 0 m₂ s₁
        [⟨m.read packed, .ok d⟩] [d] (hframe₂.holds hw) rfl hb₂
      have hb' : m'.bytes work = state d.bytes (m.read salt) (lastBytes ds) ds.length := hb'
      have hlen : (m'.bytes work).length = stateLength := by
        rw [hb', length_state d.length_bytes hsl (length_lastBytes ds)]
      have hcalls : callsFrom (m.read packed) (m.read salt) [] (d :: ds) =
          (⟨m.read packed, .ok d⟩ : Call ε) :: callsFrom (m.read packed) (m.read salt) [d] ds := rfl
      have hfr' := hframe₂.trans hfr
      rcases hend with ⟨hn, hr⟩ | ⟨e, hn, hr⟩
      · let key := ((m'.bytes work).drop hashOffset).take digestLength
        have hkey : key = lastBytes ds := by
          simp only [key, hb']
          exact take_drop_state d.length_bytes hsl (length_lastBytes ds) _
        have hfresh : ¬ m.Holds m'.buffers.length := fun h => Nat.lt_irrefl _ (hfr'.holds h)
        have hwork : (m'.alloc key).2.bytes work = m'.bytes work :=
          (Memory.Frame.alloc m' key fun _ => False).bytes work (hfr'.holds hw) id
        refine ⟨d :: ds, (m'.alloc key).2, s', hfr'.trans (Memory.Frame.alloc m' key _), ?_,
          .inl ⟨(m'.alloc key).1, by rw [List.length_cons, hn], hfresh,
            Memory.holds_allocAs _ _ _, ?_, ?_⟩⟩
        · rw [hwork, hlen]
        · rw [List.tail_cons, ← hkey]
          exact Memory.bytes_allocAs_self _ _ _
        · unfold stretch
          rw [recorded_eq [] hh, List.nil_append, hcalls]
          simp only [m₂, m₁] at hr
          simp only [hr]
          rfl
      · refine ⟨d :: ds, m', s', hfr', hlen, .inr ⟨e, by rw [List.length_cons]; omega, ?_⟩⟩
        unfold stretch
        rw [recorded_eq [] hh, List.nil_append, hcalls]
        simp only [m₂, m₁] at hr
        simp only [hr]
        rfl

theorem run_recorded (hash : Hasher σ ε) (n : Nat) {packed salt : Ref} {m : Memory} (s : σ)
    (hp : m.Holds packed.id) (hs : m.Holds salt.id) (hpl : (m.read packed).length = packedLength)
    (hsl : (m.read salt).length = saltLength) :
    let r := run (recorded hash) n packed salt m (s, [])
    let work := m.buffers.length
    r.work = some work ∧ r.memory.bytes work = List.replicate stateLength 0 ∧
    Memory.Frame m r.memory (fun _ => False) ∧
    ∃ ds : List Digest,
      ((∃ key, ds.length = n + 1 ∧ r.observer.2 = callsFrom (m.read packed) (m.read salt) [] ds ∧
          r.result = .ok key ∧ ¬ m.Holds key ∧ key ≠ work ∧ r.memory.Holds key ∧
          r.memory.bytes key = lastBytes ds.tail) ∨
        ∃ e, ds.length ≤ n ∧ r.observer.2 = callsFrom (m.read packed) (m.read salt) [] ds ++
            [⟨input (m.read packed) (m.read salt) ds, .error e⟩] ∧ r.result = .error (.hash e)) := by
  intro r work
  let m₁ := (m.alloc (List.replicate stateLength 0)).2
  have halloc : Memory.Frame m m₁ (· = work) := Memory.Frame.alloc m _ _
  have hw : m₁.Holds work := Memory.holds_allocAs false m _
  have hb : m₁.bytes work = List.replicate stateLength 0 := Memory.bytes_allocAs_self false m _
  have hold : ∀ {id}, m.Holds id → id ≠ work := fun hid => Nat.ne_of_lt hid
  have hpr : m₁.read packed = m.read packed := halloc.read hp (hold hp)
  have hsr : m₁.read salt = m.read salt := halloc.read hs (hold hs)
  obtain ⟨ds, m', s', hfr, hlen, hend⟩ := stretch_recorded hash n packed s hw hb
    (halloc.holds hs) (hold hs) (hsr ▸ hsl)
  rw [hpr, hsr] at hend
  have hmem : (m'.zero work).bytes work = List.replicate stateLength 0 := by
    rw [Memory.bytes_zero, if_pos rfl, hlen]
  have hframe : Memory.Frame m (m'.zero work) (fun _ => False) :=
    ((halloc.trans hfr).trans (Memory.Frame.zero m' work)).mono fun _ hid hW => hold hid hW
  rcases hend with ⟨key, hn, hfresh, hkey, hbytes, hst⟩ | ⟨e, hn, hst⟩
  · have hr : r = _ := run_of_stretch hpl hsl hst
    have hkw : key ≠ work := fun e => hfresh (e ▸ hw)
    rw [hr]
    refine ⟨rfl, hmem, hframe, ds, .inl ⟨key, hn, rfl, rfl, fun h => hfresh (halloc.holds h), hkw,
      (Memory.Frame.zero m' work).holds hkey, ?_⟩⟩
    rw [Memory.bytes_zero, if_neg hkw, hbytes]
  · have hr : r = _ := run_of_stretch hpl hsl hst
    rw [hr]
    exact ⟨rfl, hmem, hframe, ds, .inr ⟨e, hn, rfl, rfl⟩⟩

/-! ## What the calls were given -/

/-- The last hash after `k` rounds, as the calls tell it: zeros, then what call `k` returned. -/
def lastReturned? (calls : List (Call ε)) : Nat → Option (List UInt8)
  | 0 => some (List.replicate digestLength 0)
  | k + 1 => calls[k + 1]?.bind Call.returned?

section Given

variable {ds : List Digest} {tail : List (Call ε)}

theorem getElem?_calls {k : Nat} (hk : k < ds.length) :
    (callsFrom packed salt [] ds ++ tail)[k]? = some ⟨input packed salt (ds.take k), .ok ds[k]⟩ := by
  rw [List.getElem?_append_left (by rwa [length_callsFrom]), getElem?_callsFrom,
    List.getElem?_eq_getElem hk]
  rfl

theorem lastReturned?_calls {d : Digest} {k : Nat} (hk : k ≤ ds.length) :
    lastReturned? (callsFrom packed salt [] (d :: ds) ++ tail) k = some (lastBytes (ds.take k)) := by
  cases k with
  | zero => rfl
  | succ k =>
    have hlt : k < ds.length := hk
    have hk' : k + 1 < (d :: ds).length := Nat.succ_lt_succ hlt
    rw [lastReturned?, getElem?_calls hk', Option.bind_some, List.take_succ_eq_append_getElem hlt,
      lastBytes_concat]
    rfl

theorem given_zero {c : Call ε} (htail : ∀ x ∈ tail, x.given = input packed salt ds)
    (hc : (callsFrom packed salt [] ds ++ tail)[0]? = some c) : c.given = packed := by
  cases ds with
  | nil => exact htail c (List.mem_of_getElem? hc)
  | cons d ds =>
    rw [getElem?_calls (Nat.zero_lt_succ _)] at hc
    exact (Option.some.inj hc) ▸ rfl

/-- A call after the first is given the first hash, the salt, the last hash and the count. -/
theorem given_succ {k : Nat} {c : Call ε} (htail : ∀ x ∈ tail, x.given = input packed salt ds)
    (hlen : tail.length ≤ 1) (hc : (callsFrom packed salt [] ds ++ tail)[k + 1]? = some c) :
    ∃ first last : List UInt8,
      (callsFrom packed salt [] ds ++ tail)[0]?.bind Call.returned? = some first ∧
      lastReturned? (callsFrom packed salt [] ds ++ tail) k = some last ∧
      first.length = digestLength ∧ last.length = digestLength ∧
      c.given = state first salt last k := by
  have hgiven : k < ds.length ∧ c.given = input packed salt (ds.take (k + 1)) := by
    by_cases hk : k + 1 < ds.length
    · rw [getElem?_calls hk] at hc
      exact ⟨by omega, (Option.some.inj hc) ▸ rfl⟩
    · have hlt := (List.getElem?_eq_some_iff.1 hc).1
      rw [List.length_append, length_callsFrom] at hlt
      rw [List.getElem?_append_right (by rw [length_callsFrom]; omega)] at hc
      refine ⟨by omega, ?_⟩
      rw [htail c (List.mem_of_getElem? hc), List.take_of_length_le (by omega)]
  obtain ⟨hk, hg⟩ := hgiven
  match ds, hk with
  | d :: ds, hk =>
    have hk' : k ≤ ds.length := Nat.le_of_lt_succ hk
    refine ⟨d.bytes, lastBytes (ds.take k), ?_, lastReturned?_calls hk', d.length_bytes,
      length_lastBytes _, ?_⟩
    · rw [getElem?_calls (Nat.zero_lt_succ _)]
      rfl
    · rw [hg, List.take_succ_cons, input, List.length_take, Nat.min_eq_left hk']

theorem getElem?_tail {k : Nat} {c : Call ε} {e : ε}
    (hc : (callsFrom packed salt [] ds ++ tail)[k]? = some c) (he : c.answer = .error e) :
    ds.length ≤ k ∧ tail[k - ds.length]? = some c := by
  by_cases hk : k < ds.length
  · rw [getElem?_calls hk] at hc
    cases Option.some.inj hc
    cases he
  · have hk' := Nat.le_of_not_lt hk
    rw [List.getElem?_append_right (by rwa [length_callsFrom]), length_callsFrom] at hc
    exact ⟨hk', hc⟩

end Given

/-! ## The trace -/

/-- **The calls of a chain, and what it leaves.** Whatever the hash answers, and whichever call fails:

* writing the calls down changes nothing;
* a packed password or a salt of the wrong length is refused before any call, the password first;
* otherwise call zero is given the packed password, and call `k + 1` the first hash, the salt, the hash
  after `k` rounds and `k` as eight bytes;
* if no call fails there are `n + 1`, and the key is the hash after `n` rounds, in a new buffer, which no
  further wipe of the working state reaches; a call that fails is the last, and its failure is passed on;
* the working state is a new buffer of 88 zeros in the end, and no older buffer has changed. -/
theorem run_trace (hash : Hasher σ ε) (n : Nat) (hn : n < 2 ^ 64) (packed salt : Ref) (m : Memory)
    (s : σ) (hp : m.Holds packed.id) (hs : m.Holds salt.id) :
    let r := run (recorded hash) n packed salt m (s, [])
    let calls := r.observer.2
    run hash n packed salt m s = ⟨r.memory, r.observer.1, r.work, r.result⟩ ∧
    ((m.read packed).length ≠ 16 → r.memory = m ∧ calls = [] ∧ r.work = none ∧
      r.result = .error (.packedLength (m.read packed).length)) ∧
    ((m.read packed).length = 16 → (m.read salt).length ≠ 16 → r.memory = m ∧ calls = [] ∧
      r.work = none ∧ r.result = .error (.saltLength (m.read salt).length)) ∧
    ((m.read packed).length = 16 → (m.read salt).length = 16 →
      (∀ c, calls[0]? = some c → c.given = m.read packed) ∧
      (∀ k c, calls[k + 1]? = some c → k < n ∧ ∃ first last count : List UInt8,
        calls[0]?.bind Call.returned? = some first ∧ lastReturned? calls k = some last ∧
        (count.length = 8 ∧ LittleEndian.decode count = k) ∧
        c.given = first ++ m.read salt ++ last ++ count ∧ c.given.length = 88) ∧
      ((∀ c ∈ calls, ∃ d, c.answer = .ok d) → calls.length = n + 1 ∧
        ∃ key, r.result = .ok key ∧ ¬ m.Holds key ∧ r.work ≠ some key ∧ r.memory.Holds key ∧
          lastReturned? calls n = some (r.memory.bytes key) ∧
          ∀ work, r.work = some work → (r.memory.zero work).bytes key = r.memory.bytes key) ∧
      (∀ k c e, calls[k]? = some c → c.answer = .error e →
        calls.length = k + 1 ∧ r.result = .error (.hash e)) ∧
      ∃ work, r.work = some work ∧ ¬ m.Holds work ∧ r.memory.bytes work = List.replicate 88 0 ∧
        ∀ id, m.Holds id → r.memory.bytes id = m.bytes id) := by
  intro r calls
  refine ⟨forget_run hash n packed salt m s, fun hpl => ?_, fun hpl hsl => ?_, fun hpl hsl => ?_⟩
  · have hr : r = _ := run_of_packedLength (recorded hash) n salt (s, []) hpl
    simp only [calls, hr]
    exact ⟨trivial, trivial, trivial, trivial⟩
  · have hr : r = _ := run_of_saltLength (recorded hash) n (s, []) hpl hsl
    simp only [calls, hr]
    exact ⟨trivial, trivial, trivial, trivial⟩
  · obtain ⟨hwork, hzero, hframe, ds, hend⟩ := run_recorded hash n s hp hs hpl hsl
    have hcalls : ∃ tail : List (Call ε),
        calls = callsFrom (m.read packed) (m.read salt) [] ds ++ tail ∧
        (∀ x ∈ tail, x.given = input (m.read packed) (m.read salt) ds) ∧ tail.length ≤ 1 ∧
        ds.length + tail.length ≤ n + 1 := by
      rcases hend with ⟨key, hlen, hc, -⟩ | ⟨e, hlen, hc, -⟩
      · exact ⟨[], by rw [List.append_nil]; exact hc, by simp, by simp, by simp [hlen]⟩
      · exact ⟨[_], hc, by simp, by simp, Nat.succ_le_succ hlen⟩
    refine ⟨?_, ?_, ?_, ?_, ?_⟩
    · intro c hc
      obtain ⟨tail, ht, hgiven, -⟩ := hcalls
      rw [ht] at hc
      exact given_zero hgiven hc
    · intro k c hc
      obtain ⟨tail, ht, hgiven, hone, hlen⟩ := hcalls
      have hk := (List.getElem?_eq_some_iff.1 hc).1
      rw [ht, List.length_append, length_callsFrom] at hk
      have hkn : k < n := by omega
      rw [ht] at hc ⊢
      obtain ⟨first, last, hfirst, hlast, hfl, hll, hg⟩ := given_succ hgiven hone hc
      refine ⟨hkn, first, last, LittleEndian.encode 8 k, hfirst, hlast, ⟨by simp, ?_⟩, hg, ?_⟩
      · exact LittleEndian.decode_encode (Nat.lt_trans hkn hn)
      · rw [hg, length_state hfl hsl hll]
        rfl
    · intro hok
      rcases hend with ⟨key, hlen, -, hkey, hold, hkw, hhold, hbytes⟩ | ⟨e, -, hc, -⟩
      · obtain ⟨d, ds, rfl⟩ := List.exists_cons_of_length_eq_add_one hlen
        have hn' : ds.length = n := Nat.succ.inj hlen
        obtain ⟨tail, ht, -, -, htail⟩ := hcalls
        refine ⟨?_, key, hkey, hold, ?_, hhold, ?_, ?_⟩
        · rw [ht, List.length_append, length_callsFrom]
          omega
        · rw [hwork]
          exact fun h => hkw (Option.some.inj h).symm
        · rw [ht, lastReturned?_calls (Nat.le_of_eq hn'.symm), hbytes, List.tail_cons,
            List.take_of_length_le (Nat.le_of_eq hn')]
        · intro work hw
          have hne : key ≠ work := fun h => hkw (h.trans (Option.some.inj (hw.symm.trans hwork)))
          rw [Memory.bytes_zero, if_neg hne]
      · have hmem : ⟨input (m.read packed) (m.read salt) ds, .error e⟩ ∈ calls := by
          rw [show calls = _ from hc]
          exact List.mem_append_right _ (List.mem_singleton_self _)
        obtain ⟨d, hd⟩ := hok _ hmem
        cases hd
    · intro k c e hk he
      rcases hend with ⟨key, -, hc, -⟩ | ⟨e', -, hc, hres⟩
      · rw [show calls = _ from hc, ← List.append_nil (callsFrom _ _ _ _)] at hk
        cases (getElem?_tail hk he).2
      · rw [show calls = _ from hc] at hk ⊢
        obtain ⟨hle, ht⟩ := getElem?_tail hk he
        have hlt := (List.getElem?_eq_some_iff.1 ht).1
        rw [List.length_singleton] at hlt
        rw [show k - ds.length = 0 by omega] at ht
        cases Option.some.inj ht
        cases he
        refine ⟨?_, hres⟩
        rw [List.length_append, length_callsFrom, List.length_singleton]
        omega
    · exact ⟨_, hwork, Nat.lt_irrefl _, hzero, fun id hid => hframe.bytes id hid not_false⟩

/-- A hash that fails at its third call, and one that answers all four. -/
theorem run_trace_third :
    let hash (bad : Nat) : Hasher Nat String := fun k message =>
      (if k = bad then .error "no entropy" else
        .ok ⟨List.replicate 32 (UInt8.ofNat (message.length + k)), List.length_replicate⟩, k + 1)
    let m : Memory := ⟨[⟨List.replicate 16 1, false, 0⟩, ⟨List.replicate 16 2, false, 0⟩]⟩
    let r (bad : Nat) := run (recorded (hash bad)) 3 (.buffer 0) (.buffer 1) m (0, [])
    (r 2).observer.2.length = 3 ∧ (r 2).result = .error (.hash "no entropy") ∧
      (r 2).memory.bytes 2 = List.replicate 88 0 ∧ (r 9).observer.2.length = 4 ∧
      ∃ key, (r 9).result = .ok key ∧ (r 9).memory.bytes key = List.replicate 32 91 := by
  intro hash m r
  have h (bad : Nat) := (run_trace (hash bad) 3 (by decide) (.buffer 0) (.buffer 1) m 0
    (by show 0 < 2; decide) (by show 1 < 2; decide)).2.2.2 rfl rfl
  obtain ⟨hlen, hres⟩ := (h 2).2.2.2.1 2 _ "no entropy" rfl rfl
  obtain ⟨work, hw, -, hzero, -⟩ := (h 2).2.2.2.2
  cases Option.some.inj hw
  obtain ⟨hlen', key, hkey, -, -, -, hlast, -⟩ := (h 9).2.2.1 (by
    intro c hc
    have hall : ∀ c ∈ (r 9).observer.2, c.answer.isOk := by decide
    cases ha : c.answer with
    | ok d => exact ⟨d, rfl⟩
    | error e => exact absurd (hall c hc) (by rw [ha]; exact Bool.false_ne_true))
  have hlast' : lastReturned? (r 9).observer.2 3 = some (List.replicate 32 91) := by
    decide +kernel
  exact ⟨hlen, hres, hzero, hlen', key, hkey, Option.some.inj (hlast.symm.trans hlast')⟩

end KeyRecovery.Chain
