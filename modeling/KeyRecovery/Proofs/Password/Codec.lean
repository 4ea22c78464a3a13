import KeyRecovery.Proofs.Password.Block
import KeyRecovery.Proofs.Password.Layout
import KeyRecovery.Proofs.Password.Packed
import Mathlib.Logic.Equiv.Defs

/-!
# Passwords, short values and packed bytes

* `shortValues_eq_ok_iff` : an accepted password is one whose pieces are the written forms of its short
  values;
* `packed?`, `ofPacked?` : from a password to sixteen bytes, and back to a written password;
* `packed_bijective` : reading undoes writing, writing undoes reading but for the separators, and the
  accepted passwords with hyphens are one to one with the strings of sixteen bytes.
-/

namespace KeyRecovery.Password

/-! ## Accepted passwords -/

theorem shortValuesFrom_eq_ok_iff (place : Int) {bs : List (List Char)} {ns : List Nat} :
    shortValuesFrom place bs = .ok ns ↔ (∀ n ∈ ns, n < 0x10000) ∧ bs = ns.map Block.encode := by
  induction bs generalizing place ns with
  | nil =>
    constructor
    · rintro ⟨⟩
      simp
    · rintro ⟨-, h⟩
      rw [List.map_eq_nil_iff.1 h.symm]
      rfl
  | cons b bs ih =>
    constructor
    · intro h
      cases hb : Block.shortValue place b with
      | error e => simp [shortValuesFrom, hb, bind, Except.bind] at h
      | ok n =>
        cases hbs : shortValuesFrom (place + 1) bs with
        | error e => simp [shortValuesFrom, hb, hbs, bind, Except.bind] at h
        | ok rest =>
          obtain ⟨hn, rfl⟩ := Block.shortValue_eq_ok_iff.1 hb
          obtain ⟨hrest, rfl⟩ := (ih _).1 hbs
          have e : n :: rest = ns := by
            simpa [shortValuesFrom, hb, hbs, bind, Except.bind, pure, Except.pure] using h
          subst e
          exact ⟨List.forall_mem_cons.2 ⟨hn, hrest⟩, rfl⟩
    · rintro ⟨hns, h⟩
      cases ns with
      | nil => cases h
      | cons n rest =>
        obtain ⟨hn, hrest⟩ := List.forall_mem_cons.1 hns
        obtain ⟨rfl, rfl⟩ := List.cons.inj h
        have hb := Block.shortValue_encode place hn
        have hbs := (ih (place + 1)).2 ⟨hrest, rfl⟩
        simp [shortValuesFrom, hb, hbs, bind, Except.bind, pure, Except.pure]

theorem shortValues_eq_ok_iff {p : List Char} {ns : List Nat} :
    shortValues p = .ok ns ↔
      p.length = length ∧ (∀ n ∈ ns, n < 0x10000) ∧ split p = ns.map Block.encode := by
  unfold shortValues
  by_cases hp : p.length = length
  · rw [if_neg (by simpa using hp), ← shortValuesFrom_eq_ok_iff 1]
    cases shortValuesFrom 1 (split p) <;> simp [Except.mapError, hp]
  · simp [hp]

theorem length_of_shortValues {p : List Char} {ns : List Nat} (h : shortValues p = .ok ns) :
    ns.length = blockCount := by
  have hs := (shortValues_eq_ok_iff.1 h).2.2
  rw [← List.length_map (f := Block.encode), ← hs, length_split]

theorem length_of_mem_encoded (ns : List Nat) : ∀ b ∈ ns.map Block.encode, b.length = Block.width := by
  intro b hb
  obtain ⟨n, -, rfl⟩ := List.mem_map.1 hb
  exact Block.length_encode n

theorem length_encode {ns : List Nat} (h : ns.length = blockCount) : (encode ns).length = length :=
  length_join_eight (by simpa using h) (length_of_mem_encoded ns)

theorem split_encode {ns : List Nat} (h : ns.length = blockCount) :
    split (encode ns) = ns.map Block.encode :=
  split_join (by simpa using h) (length_of_mem_encoded ns)

theorem shortValues_encode {ns : List Nat} (h : ns.length = blockCount)
    (hns : ∀ n ∈ ns, n < 0x10000) : shortValues (encode ns) = .ok ns :=
  shortValues_eq_ok_iff.2 ⟨length_encode h, hns, split_encode h⟩

/-- A text agrees with the written form of its short values off the separators. -/
theorem getElem?_encode_of_shortValues {p : List Char} {ns : List Nat} (h : shortValues p = .ok ns) :
    ∀ i < length, i ∉ separatorPlaces → (encode ns)[i]? = p[i]? := by
  obtain ⟨hp, -, hs⟩ := shortValues_eq_ok_iff.1 h
  have hn := length_of_shortValues h
  exact (split_eq_iff (length_encode hn) hp).1 ((split_encode hn).trans hs.symm)

/-- Whether hyphens stand between the blocks of a text. -/
def HasHyphens (p : List Char) : Prop := ∀ i ∈ separatorPlaces, p[i]? = some separator

theorem hasHyphens_encode {ns : List Nat} (h : ns.length = blockCount) : HasHyphens (encode ns) :=
  fun _ hi => getElem?_join_of_mem (by simpa using h) (length_of_mem_encoded ns) hi

/-- Writing undoes reading where hyphens stand between the blocks. -/
theorem encode_of_shortValues {p : List Char} {ns : List Nat} (h : shortValues p = .ok ns)
    (hp : HasHyphens p) : encode ns = p := by
  have hn := length_of_shortValues h
  have hlen := (shortValues_eq_ok_iff.1 h).1
  apply List.ext_getElem?
  intro i
  by_cases hi : i < length
  · by_cases hs : i ∈ separatorPlaces
    · rw [hasHyphens_encode hn i hs, hp i hs]
    · exact getElem?_encode_of_shortValues h i hi hs
  · rw [List.getElem?_eq_none (by rw [length_encode hn]; omega), List.getElem?_eq_none (by omega)]

/-! ## Packed bytes -/

def packed? (p : List Char) : Option (List UInt8) :=
  match shortValues p with
  | .ok ns => (Packed.pack (ns.map Int.ofNat)).toOption
  | .error _ => none

def ofPacked? (d : List UInt8) : Option (List Char) := (Packed.unpack d).toOption.map encode

theorem packed?_of_shortValues {p : List Char} {ns : List Nat} (h : shortValues p = .ok ns) :
    packed? p = some (Packed.bytes ns) := by
  have hns := (shortValues_eq_ok_iff.1 h).2.1
  simp only [packed?, h, Packed.pack_ofNat (length_of_shortValues h) hns, Except.toOption]

theorem ofPacked?_of_size {d : List UInt8} (h : d.length = Packed.size) :
    ofPacked? d = some (encode (Packed.words d)) := by
  rw [ofPacked?, Packed.unpack_of_size h]
  rfl

theorem shortValues_encode_words {d : List UInt8} (h : d.length = Packed.size) :
    shortValues (encode (Packed.words d)) = .ok (Packed.words d) := by
  refine shortValues_encode ?_ (Packed.words_lt d)
  rw [Packed.length_words, h]
  rfl

/-- Passwords with the same packed bytes have the same digits. -/
theorem getElem?_eq_of_packed? {p q : List Char} {d : List UInt8} (hp : packed? p = some d)
    (hq : packed? q = some d) : ∀ i < length, i ∉ separatorPlaces → p[i]? = q[i]? := by
  have key : ∀ r, packed? r = some d → ∃ ns, shortValues r = .ok ns ∧ ns = Packed.words d := by
    intro r hr
    cases hs : shortValues r with
    | error e => simp [packed?, hs] at hr
    | ok ns =>
      rw [packed?_of_shortValues hs] at hr
      refine ⟨ns, rfl, ?_⟩
      rw [← Option.some.inj hr, Packed.words_bytes (shortValues_eq_ok_iff.1 hs).2.1]
  obtain ⟨ns, hns, rfl⟩ := key p hp
  obtain ⟨ns', hns', rfl⟩ := key q hq
  intro i hi hs
  rw [← getElem?_encode_of_shortValues hns i hi hs, getElem?_encode_of_shortValues hns' i hi hs]

/-- The accepted passwords with hyphens between their blocks. -/
def Hyphenated : Type := { p : List Char // (∃ ns, shortValues p = .ok ns) ∧ HasHyphens p }

/-- Packing, from the accepted passwords with hyphens to the strings of sixteen bytes. -/
def packedEquiv : Hyphenated ≃ { d : List UInt8 // d.length = Packed.size } where
  toFun p := ⟨(packed? p.1).getD [], by
    obtain ⟨p, ⟨ns, h⟩, -⟩ := p
    rw [packed?_of_shortValues h, Option.getD_some, Packed.length_bytes, length_of_shortValues h]
    rfl⟩
  invFun d := ⟨encode (Packed.words d.1), ⟨_, shortValues_encode_words d.2⟩,
    hasHyphens_encode (length_of_shortValues (shortValues_encode_words d.2))⟩
  left_inv := by
    rintro ⟨p, ⟨ns, h⟩, hp⟩
    apply Subtype.ext
    simp only [packed?_of_shortValues h, Option.getD_some,
      Packed.words_bytes (shortValues_eq_ok_iff.1 h).2.1]
    exact encode_of_shortValues h hp
  right_inv := by
    rintro ⟨d, hd⟩
    apply Subtype.ext
    have heven : d.length % 2 = 0 := by rw [hd]; rfl
    simp only [packed?_of_shortValues (shortValues_encode_words hd), Option.getD_some]
    exact Packed.bytes_words heven

/-- **Passwords are packed one to one.** Eight sixteen-bit words are read back from the password
written for them; what is written for the words of an accepted text is that text, but for the characters
between its blocks; packing takes the accepted passwords with hyphens one to one onto the strings of
sixteen bytes, with writing as its inverse; and no two passwords with different digits are packed alike. -/
theorem packed_bijective :
    (∀ ns : List Nat, ns.length = blockCount → (∀ n ∈ ns, n < 0x10000) →
      shortValues (encode ns) = .ok ns) ∧
    (∀ (p : List Char) (ns : List Nat), shortValues p = .ok ns →
      p.length = length ∧ (encode ns).length = length ∧
        ∀ i < length, i ∉ separatorPlaces → (encode ns)[i]? = p[i]?) ∧
    (∃ e : Hyphenated ≃ { d : List UInt8 // d.length = Packed.size },
      (∀ p, packed? p.1 = some (e p).1) ∧ ∀ d, ofPacked? d.1 = some (e.symm d).1) ∧
    ∀ (p q : List Char) (d : List UInt8), packed? p = some d → packed? q = some d →
      ∀ i < length, i ∉ separatorPlaces → p[i]? = q[i]? := by
  refine ⟨fun ns => shortValues_encode, fun p ns h => ?_, ⟨packedEquiv, fun p => ?_, fun d => ?_⟩,
    fun p q d => getElem?_eq_of_packed?⟩
  · exact ⟨(shortValues_eq_ok_iff.1 h).1, length_encode (length_of_shortValues h),
      getElem?_encode_of_shortValues h⟩
  · obtain ⟨p, ⟨ns, h⟩, hp⟩ := p
    change packed? p = some ((packed? p).getD [])
    rw [packed?_of_shortValues h, Option.getD_some]
  · exact ofPacked?_of_size d.2

/-- Words at both ends of the range, written with hyphens and with spaces. -/
theorem packed_bijective_spaced :
    let ns := [0, 1, 65535, 256, 255, 32768, 9, 65534]
    let spaced := (encode ns).map fun c => if c = '-' then ' ' else c
    shortValues (encode ns) = .ok ns ∧ shortValues spaced = .ok ns ∧
      (encode ns)[47]? = spaced[47]? ∧ spaced[47]? = (encode ns)[47]? ∧
      (encode ns)[48]? ≠ spaced[48]? := by
  intro ns spaced
  have hn : shortValues (encode ns) = .ok ns := packed_bijective.1 ns rfl (by decide)
  have hs : shortValues spaced = .ok ns :=
    shortValues_eq_ok_iff.2 ⟨by decide, by decide, by decide⟩
  refine ⟨hn, hs, ?_, ?_, by decide⟩
  · exact (packed_bijective.2.1 spaced ns hs).2.2 47 (by decide) (by decide)
  · exact packed_bijective.2.2.2 spaced (encode ns) _ (packed?_of_shortValues hs)
      (packed?_of_shortValues hn) 47 (by decide) (by decide)

end KeyRecovery.Password
