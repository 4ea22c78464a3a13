import KeyRecovery.Proofs.Key.Reference
import KeyRecovery.Proofs.Password.Language
import KeyRecovery.Proofs.Password.Rejection
import Mathlib.Data.List.Forall2

/-!
# What is said about a password

* `blockAt`, `Password.checked` : the blocks of a text, counted from one, and what is reported about the whole;
* `checked_of_length` : a text of another length is reported as such and never cut;
* `checked_eq_ok_iff_map` : one of full length is accepted with the short values that its blocks are accepted with;
* `checked_eq_error_iff_first` : or it is reported what is reported about the first block that is not accepted;
* `ReadAs`, `readAs_iff` : a byte string, and the text that it is read as;
* `checked_first_block` : all of it together, with what a report does not depend on.
-/

namespace KeyRecovery.Password

/-- The block at a place counted from one: six characters from every seventh on, or what there is of them. -/
def blockAt (p : List Char) (k : Nat) : List Char := (p.drop (7 * (k - 1))).take 6

def checked (p : List Char) : Except Failure (List Nat) :=
  (shortValues p).mapError PasswordError.failure

theorem split_eq_map_blockAt (p : List Char) :
    split p = (List.range 8).map fun i => blockAt p (i + 1) := by
  refine List.map_congr_left fun i _ => ?_
  rw [blockAt, Nat.add_sub_cancel, Nat.mul_comm]
  rfl

theorem getElem?_split_of_lt (p : List Char) {i : Nat} (hi : i < 8) :
    (split p)[i]? = some (blockAt p (i + 1)) := by
  rw [split_eq_map_blockAt, List.getElem?_map, List.getElem?_range hi]
  rfl

theorem checked_of_length {p : List Char} (h : p.length ≠ 55) :
    checked p =
      .error ⟨.wrongLength, "Wrong length " ++ toString p.length ++ " (Has to be 55)", none, none⟩ := by
  have hv : shortValues p = .error (.length p.length) := if_pos h
  have hrest : " (Has to be " ++ (toString length ++ ")") = " (Has to be 55)" := rfl
  rw [checked, hv, Except.mapError, PasswordError.failure, String.append_assoc, String.append_assoc, hrest]

/-! ## Texts of full length -/

theorem map_eq_map_iff {α β γ : Type} {f : α → γ} {g : β → γ} {l : List α} {l' : List β} :
    l.map f = l'.map g ↔ List.Forall₂ (fun a b => f a = g b) l l' := by
  rw [← List.forall₂_eq_eq_eq, List.forall₂_map_left_iff, List.forall₂_map_right_iff]

theorem forall_mem_take_split {p : List Char} {i : Nat} (hi : i ≤ 8) {P : List Char → Prop} :
    (∀ b ∈ (split p).take i, P b) ↔ ∀ j, 1 ≤ j → j < i + 1 → P (blockAt p j) := by
  rw [split_eq_map_blockAt, ← List.map_take, List.take_range, Nat.min_eq_left hi, List.forall_mem_map]
  constructor
  · intro h j h₁ hj
    have hP := h (j - 1) (List.mem_range.2 (by omega))
    rwa [Nat.sub_add_cancel h₁] at hP
  · intro h j hj
    exact h (j + 1) (Nat.le_add_left 1 j) (Nat.succ_lt_succ (List.mem_range.1 hj))

section

variable {p : List Char} (hp : p.length = length)
include hp

theorem checked_eq_ok_iff_map {ns : List Nat} :
    checked p = .ok ns ↔
      (List.range 8).map (fun i : Nat => Block.checked (i + 1) (blockAt p (i + 1))) = ns.map .ok := by
  have hok : checked p = .ok ns ↔ shortValues p = .ok ns := by
    unfold checked
    cases shortValues p <;> simp [Except.mapError]
  rw [hok, shortValues_eq_ok_iff, split_eq_map_blockAt]
  rw [and_iff_right hp, eq_comm, eq_comm (b := ns.map Except.ok), map_eq_map_iff, map_eq_map_iff,
    ← List.forall₂_and_left]
  simp only [eq_comm (a := Except.ok _), Block.checked_eq_ok_iff_encode, eq_comm (a := Block.encode _)]

theorem checked_eq_error_iff_block {f : Failure} :
    checked p = .error f ↔ ∃ e : BlockError, shortValues p = .error (.block e) ∧ e.failure = f := by
  have hv : shortValues p = (shortValuesFrom 1 (split p)).mapError .block := if_neg (not_not.2 hp)
  rw [checked, hv]
  cases shortValuesFrom 1 (split p) <;> simp [Except.mapError, PasswordError.failure]

theorem checked_eq_error_iff_first {f : Failure} :
    checked p = .error f ↔ ∃ k : Nat, 1 ≤ k ∧ k ≤ 8 ∧
      (∀ j : Nat, 1 ≤ j → j < k → ∃ n, Block.checked j (blockAt p j) = .ok n) ∧
      Block.checked k (blockAt p k) = .error f := by
  rw [checked_eq_error_iff_block hp]
  constructor
  · rintro ⟨⟨fault, place, s⟩, he, rfl⟩
    obtain ⟨-, i, rfl, hi, hfault, hbefore⟩ := shortValues_eq_error_iff.1 he
    have hi8 : i < 8 := by
      have := (List.getElem?_eq_some_iff.1 hi).1
      rwa [length_split] at this
    obtain rfl := Option.some.inj ((getElem?_split_of_lt p hi8).symm.trans hi)
    refine ⟨i + 1, Nat.le_add_left 1 i, hi8, fun j h₁ hj => ?_, Block.checked_of_fault _ hfault⟩
    exact (Block.exists_checked_eq_ok_iff _).2 ((forall_mem_take_split (Nat.le_of_lt hi8)).1 hbefore j h₁ hj)
  · rintro ⟨k, h₁, hk, hbefore, hf⟩
    obtain ⟨i, rfl⟩ := Nat.exists_eq_add_of_le' h₁
    obtain ⟨fault, hfault, rfl⟩ := (Block.checked_eq_error_iff _).1 hf
    refine ⟨_, shortValues_eq_error_iff.2 ⟨hp, i, rfl, getElem?_split_of_lt p hk, hfault, ?_⟩, rfl⟩
    refine (forall_mem_take_split (Nat.le_of_lt hk)).2 fun j h₁ hj => ?_
    exact (Block.exists_checked_eq_ok_iff _).1 (hbefore j h₁ hj)

/-- A block that is rejected decides together with those before it. -/
theorem checked_eq_of_blocks {q : List Char} (hq : q.length = length) {k : Nat} (h₁ : 1 ≤ k) (hk : k ≤ 8)
    (hbad : ∃ f, Block.checked k (blockAt p k) = .error f)
    (hsame : ∀ j, 1 ≤ j → j ≤ k → blockAt q j = blockAt p j) : checked q = checked p := by
  obtain ⟨f, hf⟩ := hbad
  cases hc : checked p with
  | ok ns =>
    have hmap := (checked_eq_ok_iff_map hp).1 hc
    obtain ⟨i, rfl⟩ := Nat.exists_eq_add_of_le' h₁
    have hget := congrArg (fun l => l[i]?) hmap
    simp only [List.getElem?_map, List.getElem?_range hk, Option.map_some] at hget
    obtain ⟨n, -, hn⟩ := Option.map_eq_some_iff.1 hget.symm
    cases hn.trans hf
  | error g =>
    obtain ⟨i, hi₁, hi, hbefore, hg⟩ := (checked_eq_error_iff_first hp).1 hc
    have hik : i ≤ k := by
      by_contra hlt
      obtain ⟨n, hn⟩ := hbefore k h₁ (Nat.lt_of_not_le hlt)
      cases hn.symm.trans hf
    refine (checked_eq_error_iff_first hq).2 ⟨i, hi₁, hi, fun j hj₁ hj => ?_, ?_⟩
    · rw [hsame j hj₁ (Nat.le_of_lt (Nat.lt_of_lt_of_le hj hik))]
      exact hbefore j hj₁ hj
    · rw [hsame i hi₁ hik]
      exact hg

end

/-! ## Byte strings -/

/-- Text `t` has one character for each byte of `b`: that of ASCII, or the replacement character. -/
def ReadAs (b : List UInt8) (t : List Char) : Prop :=
  List.Forall₂ (fun x c => if x < 128 then c.toNat = x.toNat else c = '\ufffd') b t

theorem readAs_iff {b : List UInt8} {t : List Char} : ReadAs b t ↔ t = ofBytes b := by
  rw [eq_comm, ofBytes, ← List.map_id t, map_eq_map_iff, List.map_id]
  refine iff_of_eq (congrArg (List.Forall₂ · b t) ?_)
  funext x c
  refine propext ?_
  by_cases hx : x < 128
  · have hvalid : x.toNat.isValidChar := .inl (Nat.lt_trans x.toNat_lt (by decide))
    have hcode : (Char.ofNat x.toNat).toNat = x.toNat := by
      rw [Char.ofNat, dif_pos hvalid]
      rfl
    rw [if_pos hx, if_pos hx, id, ← Char.toNat_inj, hcode, eq_comm]
  · rw [if_neg hx, if_neg hx, id, eq_comm]

/-- **The first bad block is reported and nothing else.** A password of another length than 55 is reported for
that alone. Of one with 55 characters the eight blocks at every seventh place are checked in order: if all are
accepted, so is the password, with their short values; else the report is that about the first that is not,
with its place and its text, and nothing after it matters. What stands between the blocks never matters. A byte
string is reported as the text it is read as, a character a byte. -/
theorem checked_first_block (r : Raw) :
    let p := r.chars
    (p.length ≠ 55 → checked p =
      .error ⟨.wrongLength, "Wrong length " ++ toString p.length ++ " (Has to be 55)", none, none⟩) ∧
    (p.length = 55 →
      (∀ ns, checked p = .ok ns ↔
        (List.range 8).map (fun i : Nat => Block.checked (i + 1) (blockAt p (i + 1))) = ns.map .ok) ∧
      (∀ f, checked p = .error f ↔ ∃ k : Nat, 1 ≤ k ∧ k ≤ 8 ∧
        (∀ j : Nat, 1 ≤ j → j < k → ∃ n, Block.checked j (blockAt p j) = .ok n) ∧
        Block.checked k (blockAt p k) = .error f ∧ f.block = some (k : Int) ∧ f.value = some (blockAt p k)) ∧
      (∀ q, ∀ k : Nat, q.length = 55 → 1 ≤ k → k ≤ 8 → (∃ f, Block.checked k (blockAt p k) = .error f) →
        (∀ j : Nat, 1 ≤ j → j ≤ k → blockAt q j = blockAt p j) → checked q = checked p) ∧
      ∀ q, q.length = 55 → (∀ i < 55, i ∉ [6, 13, 20, 27, 34, 41, 48] → p[i]? = q[i]?) →
        checked q = checked p) ∧
    ∀ b, r = .bytes b → p.length = b.length ∧ ReadAs b p ∧ ∀ t, ReadAs b t → checked t = checked p := by
  intro p
  refine ⟨checked_of_length, fun hp => ⟨fun ns => checked_eq_ok_iff_map hp, fun f => ?_,
    fun q k hq h₁ hk => checked_eq_of_blocks hp hq h₁ hk, fun q hq h => ?_⟩, fun b hb => ?_⟩
  · rw [checked_eq_error_iff_first hp]
    refine exists_congr fun k => and_congr_right fun _ => and_congr_right fun _ => and_congr_right fun _ => ?_
    refine ⟨fun hf => ?_, fun hf => hf.1⟩
    obtain ⟨hblock, hvalue, -⟩ := Block.located_of_checked _ hf
    exact ⟨hf, hblock, hvalue⟩
  · rw [checked, shortValues_congr (hq.trans hp.symm) h]
    rfl
  · have hp : p = ofBytes b := by rw [show p = r.chars from rfl, hb, Raw.chars]
    refine ⟨by rw [hp, ofBytes, List.length_map], readAs_iff.2 hp, fun t ht => ?_⟩
    rw [readAs_iff.1 ht, hp]

/-- The third and the sixth block are bad; the same as bytes, with something else after each block; and the
same without its last character. -/
theorem checked_first_block_third :
    let p := "135795-001100-597532-000077-720885-999999-046662-344707".toList
    let b := p.map fun c => if c = '-' then 0xFF else c.val.toUInt8
    (∃ f, checked p = .error f ∧ f.kind = .checksum ∧ f.block = some 3 ∧ f.value = some "597532".toList) ∧
      checked (Raw.bytes b).chars = checked p ∧ b.length = 55 ∧
      checked (p.take 54) = .error ⟨.wrongLength, "Wrong length " ++ toString 54 ++ " (Has to be 55)", none, none⟩ := by
  intro p b
  have hp : p.length = 55 := rfl
  obtain ⟨-, herror, -, hsame⟩ := (checked_first_block (.text p)).2.1 hp
  have hshort := (checked_first_block (.text (p.take 54))).1 (by decide)
  refine ⟨?_, hsame (Raw.bytes b).chars (by decide) (by decide), by decide, hshort⟩
  have h₃ := Block.checked_of_not_multiple 3 (s := blockAt p 3) (by decide) (by decide)
  refine ⟨_, (herror _).2 ⟨3, by decide, by decide, fun j h₁ hj => ?_, h₃, rfl, rfl⟩, rfl, rfl, rfl⟩
  obtain rfl | rfl : j = 1 ∨ j = 2 := by omega
  · exact ⟨12345, (Block.checked_eq_ok_iff_encode _).2 (by decide)⟩
  · exact ⟨100, (Block.checked_eq_ok_iff_encode _).2 (by decide)⟩

end KeyRecovery.Password
