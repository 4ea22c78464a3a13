import KeyRecovery.Key.Link
import KeyRecovery.Proofs.Memory.Frame

/-!
# The working state in memory

* `bytes_overwrite_zeros`, `bytes_overwrite_state` : what the writes before the rounds, and those of one
  round, make of the working state;
* `take_drop_state` : where the key is read from;
* `rounds_succ_ok`, `rounds_succ_error` : a round that is answered, and one that is not;
* `run_of_packedLength`, `run_of_saltLength`, `run_of_stretch` : the three ends of a chain.
-/

namespace KeyRecovery.Chain

theorem splice_middle {a old new c : List UInt8} {offset : Nat} (ha : a.length = offset)
    (h : new.length = old.length) :
    (a ++ old ++ c).take offset ++ new ++ (a ++ old ++ c).drop (offset + new.length) =
      a ++ new ++ c := by
  have hdrop : a.length + new.length = (a ++ old).length := by rw [List.length_append, h]
  rw [← ha, hdrop, List.drop_left, List.append_assoc a old c, List.take_left]

theorem bytes_overwrite_state {m : Memory} {work : BufferId} (hw : m.Holds work)
    {first salt last new : List UInt8} {k k' : Nat} (hb : m.bytes work = state first salt last k)
    (hf : first.length = digestLength) (hs : salt.length = saltLength)
    (hl : last.length = digestLength) (hn : new.length = digestLength) :
    ((m.overwrite work hashOffset new).overwrite work counterOffset
      (LittleEndian.encode 8 k')).bytes work = state first salt new k' := by
  have hw' : (m.overwrite work hashOffset new).Holds work :=
    (Memory.Frame.overwrite m work hashOffset new).holds hw
  have hfs : (first ++ salt).length = hashOffset := by rw [List.length_append, hf, hs]; rfl
  have hfsn : (first ++ salt ++ new).length = counterOffset := by
    rw [List.length_append, hfs, hn]; rfl
  rw [Memory.bytes_overwrite_self hw', Memory.bytes_overwrite_self hw, hb]
  unfold state
  rw [splice_middle hfs (by rw [hn, hl])]
  have hc : (LittleEndian.encode 8 k').length = (LittleEndian.encode 8 k).length := by simp
  have := splice_middle (c := []) hfsn hc
  simpa using this

theorem bytes_overwrite_zeros {m : Memory} {work : BufferId} (hw : m.Holds work)
    {first salt : List UInt8} (hb : m.bytes work = List.replicate stateLength 0)
    (hf : first.length = digestLength) (hs : salt.length = saltLength) :
    ((m.overwrite work 0 first).overwrite work saltOffset salt).bytes work =
      state first salt (List.replicate digestLength 0) 0 := by
  have hw' : (m.overwrite work 0 first).Holds work :=
    (Memory.Frame.overwrite m work 0 first).holds hw
  have h₀ : List.replicate stateLength (0 : UInt8) =
      [] ++ List.replicate digestLength 0 ++ (List.replicate saltLength 0 ++
        (List.replicate digestLength 0 ++ LittleEndian.encode 8 0)) := rfl
  have hf' : first.length = saltOffset := hf
  rw [Memory.bytes_overwrite_self hw', Memory.bytes_overwrite_self hw, hb, h₀,
    splice_middle List.length_nil (by rw [hf, List.length_replicate]), List.nil_append,
    ← List.append_assoc, splice_middle hf' (by rw [hs, List.length_replicate])]
  unfold state
  rw [List.append_assoc (first ++ salt)]

theorem take_drop_state {first salt last : List UInt8} (hf : first.length = digestLength)
    (hs : salt.length = saltLength) (hl : last.length = digestLength) (k : Nat) :
    ((state first salt last k).drop hashOffset).take digestLength = last := by
  have hfs : (first ++ salt).length = hashOffset := by rw [List.length_append, hf, hs]; rfl
  unfold state
  rw [List.append_assoc, ← hfs, List.drop_left, ← hl, List.take_left]

/-! ## Rounds and ends -/

variable {σ ε : Type}

section Rounds

variable {hash : Hasher σ ε} {work : BufferId} {m : Memory} {s s' : σ}

theorem rounds_succ_error {e : ε} (n count : Nat) (h : hash s (m.bytes work) = (.error e, s')) :
    rounds hash work (n + 1) count m s = (.error e, m, s') := by
  simp only [rounds, h]

theorem rounds_succ_ok {d : Digest} (n count : Nat) (h : hash s (m.bytes work) = (.ok d, s')) :
    rounds hash work (n + 1) count m s = rounds hash work n (count + 1)
      ((m.overwrite work hashOffset d.bytes).overwrite work counterOffset
        (LittleEndian.encode 8 (count + 1))) s' := by
  simp only [rounds, h]

end Rounds

theorem run_of_packedLength (hash : Hasher σ ε) (n : Nat) {packed : Ref} (salt : Ref) {m : Memory}
    (s : σ) (hp : (m.read packed).length ≠ packedLength) :
    run hash n packed salt m s = ⟨m, s, none, .error (.packedLength (m.read packed).length)⟩ := by
  unfold run
  rw [if_pos hp]

theorem run_of_saltLength (hash : Hasher σ ε) (n : Nat) {packed salt : Ref} {m : Memory} (s : σ)
    (hp : (m.read packed).length = packedLength) (hs : (m.read salt).length ≠ saltLength) :
    run hash n packed salt m s = ⟨m, s, none, .error (.saltLength (m.read salt).length)⟩ := by
  unfold run
  rw [if_neg (not_not_intro hp), if_pos hs]

theorem run_of_stretch {hash : Hasher σ ε} {n : Nat} {packed salt : Ref} {m m' : Memory} {s s' : σ}
    {result : Except ε BufferId} (hp : (m.read packed).length = packedLength)
    (hs : (m.read salt).length = saltLength)
    (h : stretch hash n m.buffers.length packed salt (m.alloc (List.replicate stateLength 0)).2 s =
      (result, m', s')) :
    run hash n packed salt m s =
      ⟨m'.zero m.buffers.length, s', some m.buffers.length, result.mapError .hash⟩ := by
  unfold run
  rw [if_neg (not_not_intro hp), if_neg (not_not_intro hs)]
  have h' : stretch hash n (m.alloc (List.replicate stateLength 0)).1 packed salt
      (m.alloc (List.replicate stateLength 0)).2 s = (result, m', s') := h
  simp only [h']
  rfl

end KeyRecovery.Chain
