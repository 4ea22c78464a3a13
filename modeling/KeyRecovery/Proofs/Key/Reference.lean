import KeyRecovery.Proofs.Key.Ends
import Mathlib.Data.List.Basic

/-!
# The derivation as one writes it down

* `Chain.run_function` : a chain of a hash that is a function succeeds with the iteration `Chain.stretched`;
* `Password.digitBytes` : the packed digits of a password;
* `Derivation.outcome`, `Key.reference` : what a derivation comes to, and what it should come to;
* `outcome_derive` : the two are the same;
* `reference_congr` : a derivation sees no more of a password than its length and its digits;
* `derive_eq_reference` : so it is for every password, every salt and any number of rounds.
-/

namespace KeyRecovery

variable {σ ε : Type}

/-! ## The chain -/

namespace Chain

variable {f : List UInt8 → Digest} {packed salt : List UInt8}

/-- Digests that a function gave, one for each input of a chain, end in its iteration. -/
theorem lastBytes_eq_link {first : Digest} {ds : List Digest}
    (h : ∀ k d, (first :: ds)[k]? = some d → d = f (input packed salt ((first :: ds).take k))) :
    lastBytes ds = link f (f packed).bytes salt ds.length := by
  have hfirst : first = f packed := h 0 first rfl
  -- on the number of rounds: the last hash of a shorter chain is part of the next input
  have hlink : ∀ k ≤ ds.length, lastBytes (ds.take k) = link f (f packed).bytes salt k := by
    intro k
    induction k with
    | zero => exact fun _ => rfl
    | succ k ih =>
      intro hk
      have hd := h (k + 1) ds[k] (List.getElem?_eq_getElem hk)
      rw [List.take_succ_cons, input, ih (Nat.le_of_succ_le hk), List.length_take,
        Nat.min_eq_left (Nat.le_of_succ_le hk), hfirst] at hd
      rw [List.take_succ_eq_append_getElem hk, lastBytes_concat, hd, link]
  rw [← hlink ds.length (Nat.le_refl _), List.take_length]

theorem run_function {hash : Hasher σ ε} (hf : ∀ s message, (hash s message).1 = .ok (f message))
    (n : Nat) {packed salt : Ref} {m : Memory} (s : σ) (hp : m.Holds packed.id) (hs : m.Holds salt.id)
    (hpl : (m.read packed).length = packedLength) (hsl : (m.read salt).length = saltLength) :
    ∃ key, (run hash n packed salt m s).result = .ok key ∧
      (run hash n packed salt m s).memory.bytes key =
        stretched f (m.read packed) (m.read salt) n := by
  have hcalls := forall_calls_run (P := fun c => c.answer = .ok (f c.given)) hf n packed salt m s
  obtain ⟨-, -, -, ds, ⟨key, hlen, hc, hres, -, -, -, hbytes⟩ | ⟨e, -, hc, -⟩⟩ :=
    run_recorded hash n s hp hs hpl hsl
  · rw [forget_run hash n packed salt m s]
    refine ⟨key, hres, ?_⟩
    obtain ⟨first, rounds, rfl⟩ := List.exists_cons_of_length_eq_add_one hlen
    have hgiven : ∀ k d, (first :: rounds)[k]? = some d →
        d = f (input (m.read packed) (m.read salt) ((first :: rounds).take k)) := by
      intro k d hd
      have hcall : ⟨input (m.read packed) (m.read salt) ((first :: rounds).take k), .ok d⟩ ∈
          (callsFrom (m.read packed) (m.read salt) [] (first :: rounds) : List (Call ε)) := by
        refine List.mem_of_getElem? (i := k) ?_
        rw [getElem?_callsFrom, hd]
        rfl
      rw [hc] at hcalls
      exact Except.ok.inj (hcalls _ hcall)
    rw [hbytes, List.tail_cons, lastBytes_eq_link hgiven, Nat.succ.inj hlen]
    rfl
  · rw [hc] at hcalls
    cases hcalls _ (List.mem_append_right _ (List.mem_singleton_self _))

end Chain

/-! ## The digits of a password -/

namespace Password

/-- The decimal value of each block over eleven, in two bytes, the least significant first. -/
def digitBytes (p : List Char) : List UInt8 :=
  (List.range 8).flatMap fun i => LittleEndian.encode 2 (Block.value ((p.drop (7 * i)).take 6) / 11)

theorem digitBytes_eq (p : List Char) :
    digitBytes p = (split p).flatMap fun b => LittleEndian.encode 2 (Block.value b / 11) := by
  rw [digitBytes, split, List.flatMap_map]
  simp only [stride, Block.width, blockCount, Nat.mul_comm]

theorem bytes_eq_digitBytes {p : List Char} {ns : List Nat} (h : shortValues p = .ok ns) :
    Packed.bytes ns = digitBytes p := by
  obtain ⟨-, hns, hsplit⟩ := shortValues_eq_ok_iff.1 h
  rw [digitBytes_eq, hsplit, List.flatMap_map, Packed.bytes]
  refine List.flatMap_congr fun n hn => ?_
  rw [Block.value_encode (hns n hn), Nat.mul_div_cancel_left n (by decide)]

theorem shortValues_congr {p q : List Char} (hlen : q.length = p.length)
    (h : ∀ i < length, i ∉ separatorPlaces → p[i]? = q[i]?) : shortValues q = shortValues p := by
  unfold shortValues
  rw [hlen]
  split
  · rfl
  · next hp =>
    have hp := not_not.1 hp
    rw [(split_eq_iff hp (hlen.trans hp)).2 h]

end Password

/-! ## The derivation -/

def Derivation.outcome (d : Derivation σ ε) : Except (DeriveError ε) (List UInt8) :=
  d.result.map d.memory.bytes

theorem Derivation.outcome_eq_ok_iff {d : Derivation σ ε} {b : List UInt8} :
    d.outcome = .ok b ↔ ∃ key, d.result = .ok key ∧ d.memory.bytes key = b := by
  unfold Derivation.outcome
  cases d.result <;> simp [Except.map]

theorem Derivation.outcome_eq_error_iff {d : Derivation σ ε} {e : DeriveError ε} :
    d.outcome = .error e ↔ d.result = .error e := by
  unfold Derivation.outcome
  cases d.result <;> simp [Except.map]

/-- What a derivation should come to: the password is looked at before the salt, and the key is the hash
after `n` rounds on the digits of the password. -/
def Key.reference (f : List UInt8 → Digest) (n : Nat) (password : List Char) (salt : List UInt8) :
    Except (DeriveError ε) (List UInt8) :=
  match Password.shortValues password with
  | .error e => .error (.password e)
  | .ok _ =>
    if salt.length = 16 then
      .ok (Chain.link f (f (Password.digitBytes password)).bytes salt n)
    else .error (.chain (.saltLength salt.length))

theorem Key.reference_eq_ok_iff {f : List UInt8 → Digest} {n : Nat} {password : List Char}
    {salt b : List UInt8} :
    (Key.reference f n password salt : Except (DeriveError ε) _) = .ok b ↔
      (∃ ns, Password.shortValues password = .ok ns) ∧ salt.length = 16 ∧
        Chain.link f (f (Password.digitBytes password)).bytes salt n = b := by
  unfold Key.reference
  cases Password.shortValues password with
  | error e => simp
  | ok ns => by_cases hs : salt.length = 16 <;> simp [hs]

section

variable {f : List UInt8 → Digest} {hash : Hasher σ ε} {n : Nat} {threshold : Int} {password : List Char}
  {salt : Ref} {m : Memory} {s : σ}

theorem outcome_derive (hf : ∀ s message, (hash s message).1 = .ok (f message))
    (hs : m.Holds salt.id) :
    (derive hash n threshold password salt m s).outcome = Key.reference f n password (m.read salt) := by
  unfold Key.reference
  cases hp : Password.shortValues password with
  | error e =>
    rw [Derivation.outcome, derive_of_rejected hash n threshold salt m s hp]
    rfl
  | ok ns =>
    by_cases hsl : (m.read salt).length = 16
    · let packed := m.buffers.length
      let m₁ := (m.alloc (Packed.bytes ns)).2
      have halloc : Memory.Frame m m₁ fun _ => False := .alloc m _ _
      have hpacked : m₁.Holds (Ref.buffer packed).id := Memory.holds_allocAs false m _
      have hread : m₁.read (.buffer packed) = Password.digitBytes password :=
        (Memory.bytes_allocAs_self false m _).trans (Password.bytes_eq_digitBytes hp)
      have hsalt : m₁.read salt = m.read salt := halloc.read hs not_false
      have hlen : (m₁.read (.buffer packed)).length = Chain.packedLength := by
        rw [hread, ← Password.bytes_eq_digitBytes hp]
        exact length_packed hp
      obtain ⟨key, hkey, hbytes⟩ := Chain.run_function hf n s hpacked (halloc.holds hs) hlen
        ((congrArg List.length hsalt).trans hsl)
      obtain ⟨-, hne, -⟩ := (Chain.run_packed hash n (Packed.bytes ns) s hs).2.2 key hkey
      rw [Derivation.outcome, derive_of_accepted hash n threshold salt m s hp]
      rw [hread, hsalt] at hbytes
      simp only [m₁, packed] at hkey hbytes
      simp only [hkey, Except.mapError, Except.map, Memory.bytes_zero, if_neg hne, hbytes, if_pos hsl,
        Chain.stretched]
    · have hfail := (derive_of_saltLength hash n threshold salt m s hp hs hsl).1
      rw [Derivation.outcome_eq_error_iff.2 hfail]
      exact (if_neg hsl).symm

end

theorem reference_congr (f : List UInt8 → Digest) (n : Nat) {p q : List Char} (salt : List UInt8)
    (hlen : q.length = p.length)
    (h : ∀ i < Password.length, i ∉ Password.separatorPlaces → p[i]? = q[i]?) :
    (Key.reference f n q salt : Except (DeriveError ε) _) = Key.reference f n p salt := by
  have hv := Password.shortValues_congr hlen h
  unfold Key.reference
  rw [hv]
  cases hp : Password.shortValues p with
  | error e => rfl
  | ok ns => rw [← Password.bytes_eq_digitBytes hp, ← Password.bytes_eq_digitBytes (hv.trans hp)]

/-- An accepted password, and the same with one more character: the digits agree, the outcomes do not. -/
theorem digits_of_longer :
    let p := Password.encode [12345, 100, 54321, 7, 65535, 1000, 4242, 31337]
    let m : Memory := ⟨[⟨List.replicate 16 0, true, 0⟩]⟩
    let d (p : Password.Raw) := derive Sha256.hasher Chain.standardRounds 0 p.chars (.buffer 0) m ()
    (∀ i < Password.length, i ∉ Password.separatorPlaces → p[i]? = (p ++ ['-'])[i]?) ∧
      (∃ key, (d (.text p)).outcome = .ok key) ∧
      (d (.text (p ++ ['-']))).outcome = .error (.password (.length 56)) := by
  intro p m d
  have hs : m.Holds (Ref.buffer 0).id := by show 0 < 1; decide
  have href (p : Password.Raw) :
      (d p).outcome = Key.reference Sha256.digest Chain.standardRounds p.chars (m.read (.buffer 0)) :=
    outcome_derive (fun _ _ => rfl) hs
  have haccepted : ∃ ns, Password.shortValues p = .ok ns :=
    ⟨_, Password.shortValues_encode rfl (by decide)⟩
  have hlong : Password.shortValues (p ++ ['-']) = .error (.length 56) := by decide
  refine ⟨by decide, ⟨_, (href _).trans (Key.reference_eq_ok_iff.2 ⟨haccepted, rfl, rfl⟩)⟩, ?_⟩
  rw [href, Key.reference, Password.Raw.chars, hlong]

/-- **A derivation is its reference.** There is a key if and only if the password is accepted and the salt
has sixteen bytes; it is then the hash after `n` rounds, from the packed digits and the salt. A rejected
password is reported as such, whatever the salt, and after an accepted one a salt of another length is. So
passwords of one length with the same digits come to the same, whatever stands between their blocks. -/
theorem derive_eq_reference (n : Nat) (threshold : Int) (p : Password.Raw) {salt : Ref} {m : Memory}
    (hs : m.Holds salt.id) :
    let d (p : Password.Raw) := derive Sha256.hasher n threshold p.chars salt m ()
    let h := (Sha256.digest (Password.digitBytes p.chars)).bytes
    ((∃ key, (d p).result = .ok key) ↔
      (∃ ns, Password.shortValues p.chars = .ok ns) ∧ (m.read salt).length = 16) ∧
    (∀ key, (d p).result = .ok key →
      (d p).memory.bytes key = Chain.link Sha256.digest h (m.read salt) n) ∧
    (∀ e, Password.shortValues p.chars = .error e → (d p).result = .error (.password e)) ∧
    (∀ ns, Password.shortValues p.chars = .ok ns → (m.read salt).length ≠ 16 →
      (d p).result = .error (.chain (.saltLength (m.read salt).length))) ∧
    ∀ q : Password.Raw, q.chars.length = p.chars.length →
      (∀ i < Password.length, i ∉ Password.separatorPlaces → p.chars[i]? = q.chars[i]?) →
        (d q).outcome = (d p).outcome := by
  intro d h
  have href (p : Password.Raw) : (d p).outcome = Key.reference Sha256.digest n p.chars (m.read salt) :=
    outcome_derive (fun _ _ => rfl) hs
  have hok (b : List UInt8) : (∃ key, (d p).result = .ok key ∧ (d p).memory.bytes key = b) ↔
      (∃ ns, Password.shortValues p.chars = .ok ns) ∧ (m.read salt).length = 16 ∧
        Chain.link Sha256.digest h (m.read salt) n = b := by
    rw [← Derivation.outcome_eq_ok_iff, href, Key.reference_eq_ok_iff]
  refine ⟨⟨?_, ?_⟩, ?_, ?_, ?_, fun q hlen hq => ?_⟩
  · rintro ⟨key, hkey⟩
    obtain ⟨hns, hsalt, -⟩ := (hok _).1 ⟨key, hkey, rfl⟩
    exact ⟨hns, hsalt⟩
  · rintro ⟨hns, hsalt⟩
    obtain ⟨key, hkey, -⟩ := (hok _).2 ⟨hns, hsalt, rfl⟩
    exact ⟨key, hkey⟩
  · exact fun key hkey => ((hok _).1 ⟨key, hkey, rfl⟩).2.2.symm
  · intro e he
    rw [← Derivation.outcome_eq_error_iff, href, Key.reference, he]
  · intro ns hns hsalt
    rw [← Derivation.outcome_eq_error_iff, href, Key.reference, hns]
    exact if_neg hsalt
  · rw [href q, href p, reference_congr Sha256.digest n (m.read salt) hlen hq]

/-- A text, and the same digits as bytes with something else between the blocks: one round gives both the
same key. -/
theorem derive_eq_reference_bytes :
    let p := Password.encode [12345, 100, 54321, 7, 65535, 1000, 4242, 31337]
    let q := p.map fun c => if c = '-' then 0xFF else c.val.toUInt8
    let salt := (List.range 16).map UInt8.ofNat
    let m : Memory := ⟨[⟨salt, true, 0⟩]⟩
    let d (p : Password.Raw) := derive Sha256.hasher 1 0 p.chars (.buffer 0) m ()
    let h := (Sha256.digest (Password.digitBytes p)).bytes
    ∃ key, (d (.text p)).result = .ok key ∧
      (d (.text p)).memory.bytes key =
        (Sha256.digest (h ++ salt ++ List.replicate 32 0 ++ List.replicate 8 0)).bytes ∧
      (d (.bytes q)).outcome = (d (.text p)).outcome := by
  intro p q salt m d h
  have hs : m.Holds (Ref.buffer 0).id := by show 0 < 1; decide
  obtain ⟨hkey, hbytes, -, -, hsame⟩ := derive_eq_reference 1 0 (.text p) hs
  obtain ⟨key, hkey⟩ := hkey.2 ⟨⟨_, Password.shortValues_encode rfl (by decide)⟩, rfl⟩
  exact ⟨key, hkey, hbytes key hkey, hsame (.bytes q) (by decide) (by decide)⟩

end KeyRecovery
