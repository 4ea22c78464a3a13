import KeyRecovery.Proofs.Key.Reference

/-!
# Lending a key

* `bytes_derive_of_function` : the key of a derivation with a hash that is a function;
* `bytes_deriveAndWipe` : a key that was lent is zeros, and all else as the consumer left it;
* `Memory.filing` : a consumer that files a copy of what it is lent, at each call;
* `filed_deriveAndWipe` : so there is one copy in the end, of the key as it was derived;
* `left_deriveAndWipe` : no new buffer holds anything but zeros after a consumer that writes to the key alone;
* `lent_once` : what becomes of a key that is lent, whatever the consumer does with it.
-/

namespace KeyRecovery

open Memory (Through)

variable {σ ε δ γ : Type}

def Memory.filing (consumer : BufferId → Memory → γ × Memory) (key : BufferId) (m : Memory) : γ × Memory :=
  ((consumer key m).1, ((consumer key m).2.allocAs true (m.bytes key)).2)

section

variable (hash : Hasher σ ε) (n : Nat) (threshold : Int) (password : List Char) {salt : Ref} {m : Memory}
  (s : σ) {key : BufferId}

theorem bytes_derive_of_function {f : List UInt8 → Digest}
    (hf : ∀ s message, (hash s message).1 = .ok (f message)) (hs : m.Holds salt.id)
    (hkey : (derive hash n threshold password salt m s).result = .ok key) :
    (derive hash n threshold password salt m s).memory.bytes key =
      Chain.link f (f (Password.digitBytes password)).bytes (m.read salt) n := by
  have hok := Derivation.outcome_eq_ok_iff.2 ⟨key, hkey, rfl⟩
  rw [outcome_derive hf hs] at hok
  exact (Key.reference_eq_ok_iff.1 hok).2.2.symm

variable {consumer : BufferId → Memory → γ × Memory}
  (hkey : (derive hash n threshold password salt m s).result = .ok key)
include hkey

theorem bytes_deriveAndWipe (id : BufferId) :
    let left := (consumer key (derive hash n threshold password salt m s).memory).2
    (deriveAndWipe hash n threshold password salt m s consumer).memory.bytes id =
      if id = key then List.replicate (left.bytes key).length 0 else left.bytes id := by
  rw [deriveAndWipe_of_ok hash n threshold password salt m s consumer hkey]
  exact Memory.bytes_zero _ key id

theorem filed_deriveAndWipe
    (hheld : (consumer key (derive hash n threshold password salt m s).memory).2.Holds key) :
    let l := deriveAndWipe hash n threshold password salt m s consumer
    let filed := deriveAndWipe hash n threshold password salt m s (Memory.filing consumer)
    filed.result = l.result ∧ filed.memory.buffers =
      l.memory.buffers ++ [⟨(derive hash n threshold password salt m s).memory.bytes key, true, 0⟩] := by
  intro l filed
  have hl : l = _ := deriveAndWipe_of_ok hash n threshold password salt m s consumer hkey
  have hfiled : filed = _ :=
    deriveAndWipe_of_ok hash n threshold password salt m s (Memory.filing consumer) hkey
  let d := derive hash n threshold password salt m s
  have hzero : (Memory.filing consumer key d.memory).2.zero key =
      (((consumer key d.memory).2.zero key).allocAs true (d.memory.bytes key)).2 :=
    Memory.update_allocAs hheld _ true _
  rw [hl, hfiled]
  exact ⟨rfl, congrArg Memory.buffers hzero⟩

theorem left_deriveAndWipe (hs : m.Holds salt.id)
    (hthrough : Through (.buffer key) (derive hash n threshold password salt m s).memory
      (consumer key (derive hash n threshold password salt m s).memory).2) :
    let l := deriveAndWipe hash n threshold password salt m s consumer
    (∀ id, m.Holds id → l.memory.bytes id = m.bytes id) ∧
      ∀ id, ¬ m.Holds id → ∃ k, l.memory.bytes id = List.replicate k 0 := by
  intro l
  obtain ⟨hframe, hnew⟩ := derive_kept hash n threshold password salt m s hs
  obtain ⟨f, hf⟩ := hthrough.exists_update
  have hother : ∀ id, id ≠ key →
      l.memory.bytes id = (derive hash n threshold password salt m s).memory.bytes id := by
    intro id hid
    rw [bytes_deriveAndWipe hash n threshold password s hkey, if_neg hid, hf]
    exact Memory.bytes_update_other _ hid f
  refine ⟨fun id hid => ?_, fun id hid => ?_⟩
  · have hne : id ≠ key := fun h => (hnew key hkey).1 (h ▸ hid)
    rw [hother id hne, hframe.bytes id hid not_false]
  · by_cases hne : id = key
    · exact ⟨_, (bytes_deriveAndWipe hash n threshold password s hkey id).trans (if_pos hne)⟩
    · rw [hother id hne]
      refine blank_new_derive hash n threshold password salt m s hid fun h => hne ?_
      exact Except.ok.inj (h.symm.trans hkey)

end

/-- **A key is lent once, and wiped.** Whatever the consumer does with what it is lent, and whether it answers
with a value or with a failure:

* if no key is derived, the reason is passed on, and the consumer might be any other one;
* if there is a key, it is in a new buffer of 32 bytes, those of the chain, when the consumer is called, and it
  is called once: had it filed a copy of what it was lent at each call, there would be that one copy;
* then the key's buffer holds zeros alone, as many as it had bytes when the consumer was done, all else is as
  the consumer left it, and its answer is passed on;
* so if it wrote to the key only, older buffers are as before, and no new buffer holds anything but zeros. -/
theorem lent_once (hash : Hasher σ ε) (n : Nat) (threshold : Int) (p : Password.Raw) {salt : Ref} {m : Memory}
    (s : σ) (consumer : BufferId → Memory → Except δ γ × Memory) (hs : m.Holds salt.id) :
    let d := derive hash n threshold p.chars salt m s
    let lend (c : BufferId → Memory → Except δ γ × Memory) := deriveAndWipe hash n threshold p.chars salt m s c
    let l := lend consumer
    l.log = d.log ∧
    (∀ e, d.result = .error e → l.result = .error e ∧ l.key = none ∧ l.memory = d.memory ∧
      ∀ other, lend other = l) ∧
    ∀ key, d.result = .ok key →
      let given := d.memory.bytes key
      let left := (consumer key d.memory).2
      l.key = some key ∧ ¬ m.Holds key ∧ given.length = 32 ∧
      (∀ f, (∀ s message, (hash s message).1 = .ok (f message)) →
        given = Chain.link f (f (Password.digitBytes p.chars)).bytes (m.read salt) n) ∧
      (left.Holds key → (lend (Memory.filing consumer)).result = l.result ∧
        (lend (Memory.filing consumer)).memory.buffers = l.memory.buffers ++ [⟨given, true, 0⟩]) ∧
      l.result = .ok (consumer key d.memory).1 ∧ l.memory = left.zero key ∧
      l.memory.bytes key = List.replicate (left.bytes key).length 0 ∧
      (Through (.buffer key) d.memory left →
        (∀ id, m.Holds id → l.memory.bytes id = m.bytes id) ∧
          ∀ id, ¬ m.Holds id → ∃ k, l.memory.bytes id = List.replicate k 0) := by
  intro d lend l
  have hok (key : BufferId) (hkey : d.result = .ok key) : l = _ :=
    deriveAndWipe_of_ok hash n threshold p.chars salt m s consumer hkey
  have herror (e : DeriveError ε) (he : d.result = .error e) (c) : lend c = _ :=
    deriveAndWipe_of_error hash n threshold p.chars salt m s c he
  refine ⟨?_, fun e he => ?_, fun key hkey => ?_⟩
  · cases hr : d.result with
    | error e => rw [show l = lend consumer from rfl, herror e hr]
    | ok key => rw [hok key hr]
  · have hl : l = _ := herror e he consumer
    refine ⟨?_, ?_, ?_, fun other => (herror e he other).trans hl.symm⟩
    all_goals rw [hl]
  · intro given left
    obtain ⟨hnew, -, hlen⟩ := (derive_kept hash n threshold p.chars salt m s hs).2 key hkey
    refine ⟨?_, hnew, hlen, fun f hf => ?_, fun hheld => ?_, ?_, ?_, ?_, fun hthrough => ?_⟩
    · rw [hok key hkey]
    · exact bytes_derive_of_function hash n threshold p.chars s hf hs hkey
    · exact filed_deriveAndWipe hash n threshold p.chars s hkey hheld
    · rw [hok key hkey]
    · rw [hok key hkey]
    · exact (bytes_deriveAndWipe hash n threshold p.chars s hkey key).trans (if_pos rfl)
    · exact left_deriveAndWipe hash n threshold p.chars s hkey hs hthrough

/-- A consumer that makes the key longer and then fails; and a password for which it is not called. -/
theorem lent_once_extended :
    let p := Password.encode [12345, 100, 54321, 7, 65535, 1000, 4242, 31337]
    let hash : Hasher Unit Empty := fun s message =>
      (.ok ⟨List.replicate 32 (UInt8.ofNat message.length), List.length_replicate⟩, s)
    let m : Memory := ⟨[⟨List.replicate 16 2, true, 0⟩]⟩
    let consumer : BufferId → Memory → Except String Nat × Memory := fun key m =>
      (.error "no volume", ((m.extend (some (.buffer key)) [1, 2]).toOption).getD m)
    let lend (p : List Char) (c : BufferId → Memory → Except String Nat × Memory) :=
      deriveAndWipe hash 1 20 p (.buffer 0) m () c
    (lend p consumer).key = some 3 ∧ (lend p consumer).result = .ok (.error "no volume") ∧
      (lend p consumer).memory.bytes 3 = List.replicate 34 0 ∧
      (lend p consumer).memory.bytes 0 = List.replicate 16 2 ∧
      (lend p (Memory.filing consumer)).memory.buffers =
        (lend p consumer).memory.buffers ++ [⟨List.replicate 32 88, true, 0⟩] ∧
      (lend [] consumer).key = none := by
  intro p hash m consumer lend
  have hs : m.Holds (Ref.buffer 0).id := by show 0 < 1; decide
  have hp : Password.shortValues p = .ok [12345, 100, 54321, 7, 65535, 1000, 4242, 31337] :=
    Password.shortValues_encode rfl (by decide)
  let d := derive hash 1 20 p (.buffer 0) m ()
  have hd : d = _ := derive_of_accepted hash 1 20 (.buffer 0) m () hp
  have hkey : d.result = .ok 3 := by rw [hd]; rfl
  have hgiven : d.memory.bytes 3 = List.replicate 32 88 := by rw [hd]; decide +kernel
  have hlen : ((consumer 3 d.memory).2.bytes 3).length = 34 := by rw [hd]; decide +kernel
  have hthrough : Through (.buffer 3) d.memory (consumer 3 d.memory).2 := by
    show Through _ _ ((d.memory.extend (some (.buffer 3)) [1, 2]).toOption.getD d.memory)
    cases he : d.memory.extend (some (.buffer 3)) [1, 2] with
    | error e => exact .refl
    | ok m' => exact .extend .refl he
  have hheld : (consumer 3 d.memory).2.Holds 3 :=
    hthrough.frame.holds ((derive_kept hash 1 20 p (.buffer 0) m () hs).2 3 hkey).2.1
  obtain ⟨-, -, hlent⟩ := lent_once hash 1 20 (.text p) () consumer hs
  obtain ⟨hl, -, -, -, hfiled, hres, -, hzero, hleft⟩ := hlent 3 hkey
  refine ⟨hl, hres, hzero.trans (congrArg (List.replicate · 0) hlen), ?_, ?_, ?_⟩
  · exact (hleft hthrough).1 0 hs
  · rw [← hgiven]
    exact (hfiled hheld).2
  · exact ((lent_once hash 1 20 (.text []) () consumer hs).2.1 _ rfl).2.1

end KeyRecovery
