import KeyRecovery.Proofs.Password.Codec

/-!
# The first bad block

* `shortValuesFrom_of_fault`, `shortValuesFrom_of_good` : consecutive blocks, of which the first is bad or
  good;
* `shortValuesFrom_eq_error_iff` : consecutive blocks are rejected for the first of them that is bad;
* `shortValues_eq_error_iff` : so is a password, with the place of the block counted from one;
* `shortValues_of_first_fault` : the same from a list that the blocks of a password begin with;
* `good_of_mem_split` : an accepted password has good blocks alone.
-/

namespace KeyRecovery.Password

theorem shortValuesFrom_of_fault (place : Int) {b : List Char} {f : BlockFault}
    (h : Block.fault? b = some f) (bs : List (List Char)) :
    shortValuesFrom place (b :: bs) = .error ⟨f, place, b⟩ := by
  rw [shortValuesFrom, Block.shortValue_of_fault h]
  rfl

theorem shortValuesFrom_of_good (place : Int) {b : List Char} (h : Block.fault? b = none)
    (bs : List (List Char)) :
    shortValuesFrom place (b :: bs) =
      (shortValuesFrom (place + 1) bs).map (Block.value b / 11 :: ·) := by
  have hb : Block.shortValue place b = .ok (Block.value b / 11) := by
    rw [Block.shortValue, h]
  rw [shortValuesFrom, hb]
  cases shortValuesFrom (place + 1) bs <;> rfl

theorem shortValuesFrom_eq_error_iff {place : Int} {bs : List (List Char)} {e : BlockError} :
    shortValuesFrom place bs = .error e ↔
      ∃ i : Nat, e.place = place + i ∧ bs[i]? = some e.digits ∧
        Block.fault? e.digits = some e.fault ∧ ∀ b ∈ bs.take i, Block.fault? b = none := by
  induction bs generalizing place with
  | nil => simp [shortValuesFrom]
  | cons b bs ih =>
    cases hb : Block.fault? b with
    | some f =>
      rw [shortValuesFrom_of_fault place hb]
      constructor
      · rintro ⟨⟩
        exact ⟨0, (Int.add_zero place).symm, rfl, hb, List.forall_mem_nil _⟩
      · rintro ⟨i, hplace, hi, hf, hgood⟩
        cases i with
        | zero =>
          obtain rfl : b = e.digits := Option.some.inj hi
          obtain rfl : f = e.fault := Option.some.inj (hb.symm.trans hf)
          rw [Int.ofNat_zero, Int.add_zero] at hplace
          rw [← hplace]
        | succ i => rw [hgood b List.mem_cons_self] at hb; cases hb
    | none =>
      rw [shortValuesFrom_of_good place hb]
      have hmap : (shortValuesFrom (place + 1) bs).map (Block.value b / 11 :: ·) = .error e ↔
          shortValuesFrom (place + 1) bs = .error e := by
        cases shortValuesFrom (place + 1) bs <;> simp [Except.map]
      rw [hmap, ih]
      constructor
      · rintro ⟨i, hplace, hi, hf, hgood⟩
        refine ⟨i + 1, by omega, hi, hf, ?_⟩
        rw [List.take_succ_cons]
        exact List.forall_mem_cons.2 ⟨hb, hgood⟩
      · rintro ⟨i, hplace, hi, hf, hgood⟩
        cases i with
        | zero =>
          obtain rfl : b = e.digits := Option.some.inj hi
          rw [hb] at hf
          cases hf
        | succ i =>
          refine ⟨i, by omega, hi, hf, fun a ha => hgood a ?_⟩
          rw [List.take_succ_cons]
          exact List.mem_cons_of_mem b ha

theorem shortValues_eq_error_iff {p : List Char} {e : BlockError} :
    shortValues p = .error (.block e) ↔ p.length = length ∧
      ∃ i : Nat, e.place = i + 1 ∧ (split p)[i]? = some e.digits ∧
        Block.fault? e.digits = some e.fault ∧ ∀ b ∈ (split p).take i, Block.fault? b = none := by
  unfold shortValues
  by_cases hp : p.length = length
  · have hmap : (shortValuesFrom 1 (split p)).mapError PasswordError.block = .error (.block e) ↔
        shortValuesFrom 1 (split p) = .error e := by
      cases shortValuesFrom 1 (split p) <;> simp [Except.mapError]
    rw [if_neg (by simpa using hp), hmap, shortValuesFrom_eq_error_iff]
    simp only [hp, true_and, Int.add_comm 1]
  · simp [hp]

theorem shortValues_of_first_fault {p b : List Char} {bs : List (List Char)} {f : BlockFault}
    (hp : p.length = length) (hsplit : bs ++ [b] <+: split p)
    (hgood : ∀ a ∈ bs, Block.fault? a = none) (hf : Block.fault? b = some f) :
    shortValues p = .error (.block ⟨f, bs.length + 1, b⟩) := by
  obtain ⟨rest, hrest⟩ := hsplit
  rw [List.append_assoc] at hrest
  refine shortValues_eq_error_iff.2 ⟨hp, bs.length, rfl, ?_, hf, ?_⟩
  · rw [← hrest, List.getElem?_append_right (Nat.le_refl _), Nat.sub_self]
    rfl
  · rwa [← hrest, List.take_left]

theorem good_of_mem_split {p : List Char} {ns : List Nat} (h : shortValues p = .ok ns) :
    ∀ b ∈ split p, Block.fault? b = none := by
  obtain ⟨-, hns, hsplit⟩ := shortValues_eq_ok_iff.1 h
  intro b hb
  rw [hsplit] at hb
  obtain ⟨n, hn, rfl⟩ := List.mem_map.1 hb
  exact Block.fault?_encode (hns n hn)

end KeyRecovery.Password
