import KeyRecovery.Proofs.Entry.Step
import KeyRecovery.Proofs.Password.Codec

/-!
# What holds of every entry

* `Sound m` : the blocks of `m` are good, its digits in progress are digits, its eighth block ends it,
  and its last rejection is that of a block of six digits at the place where it stands;
* `Sound.press`, `Sound.abort`, `sound_after` : every action keeps this, so it always holds;
* `Sound.shortValues_join` : eight good blocks make an accepted password;
* `invariant_after` : what this says of a machine after any actions, and of the password it gives out.
-/

namespace KeyRecovery.Machine

structure Sound (m : Machine) : Prop where
  good : ∀ b ∈ m.blocks, Block.fault? b = none
  typed : ∀ c ∈ m.digits, c.isDigit = true
  cursor : m.digits.length < Block.width
  count : m.blocks.length ≤ Password.blockCount
  valid : m.stage = .allBlocksValid → m.blocks.length = Password.blockCount
  full : m.blocks.length = Password.blockCount → m.digits = [] ∧ m.done = true
  rejected : ∀ e, m.lastError = some e → m.digits = [] ∧
    (e.fault = .notMultiple ∨ e.fault = .tooLarge) ∧ e.place = m.place ∧
    Block.isSixDigits e.digits = true

/-- With fewer than eight blocks, nothing is asked of the stage. -/
theorem sound_of_room {bs : List (List Char)} {ds : List Char} {last : Option BlockError}
    (hgood : ∀ b ∈ bs, Block.fault? b = none) (htyped : ∀ c ∈ ds, c.isDigit = true)
    (hcursor : ds.length < Block.width) (hroom : bs.length < Password.blockCount)
    (hrejected : ∀ e, last = some e → ds = [] ∧ (e.fault = .notMultiple ∨ e.fault = .tooLarge) ∧
      e.place = bs.length + 1 ∧ Block.isSixDigits e.digits = true) :
    Sound ⟨bs, ds, .awaitingDigit, last⟩ :=
  ⟨hgood, htyped, hcursor, Nat.le_of_lt hroom, by simp, fun h8 => absurd h8 (Nat.ne_of_lt hroom),
    hrejected⟩

theorem sound_start : Sound start :=
  sound_of_room (by simp) (by simp) (by decide) (by decide) (by simp)

theorem isDigit_of_ofText {text : List Char} {c : Char} (h : Stroke.ofText text = .digit c) :
    c.isDigit = true := by
  unfold Stroke.ofText at h
  split at h
  · unfold Stroke.ofChar at h
    split at h
    · cases h
    · split at h
      · cases h; assumption
      · cases h
  · cases h

/-! ## One action -/

namespace Sound

variable {m : Machine}

theorem room (h : Sound m) (hd : m.done = false) : m.blocks.length < Password.blockCount := by
  have hc := h.count
  have hne : m.blocks.length ≠ Password.blockCount := fun e => by simp [(h.full e).2] at hd
  omega

theorem typed_concat (h : Sound m) {c : Char} (hc : c.isDigit = true) :
    ∀ a ∈ m.digits ++ [c], a.isDigit = true := by
  intro a ha
  rcases List.mem_append.1 ha with ha | ha
  · exact h.typed a ha
  · rw [List.mem_singleton.1 ha]
    exact hc

theorem press_digit (h : Sound m) (hd : m.done = false) {c : Char} (hc : c.isDigit = true) :
    Sound (m.press (.digit c)) := by
  have hroom := h.room hd
  have htyped := h.typed_concat hc
  rcases Nat.lt_or_eq_of_le h.cursor with hlen | hlen
  · rw [press_digit_short c hlen]
    exact sound_of_room h.good htyped (by simpa using hlen) hroom (by simp)
  · have hsix : Block.isSixDigits (m.digits ++ [c]) = true :=
      Block.isSixDigits_iff.2 ⟨by simpa using hlen, List.all_eq_true.2 htyped⟩
    cases hf : Block.fault? (m.digits ++ [c]) with
    | some f =>
      rw [press_digit_rejected hlen hf]
      refine sound_of_room h.good (by simp) (Nat.zero_lt_succ _) hroom fun e he => ?_
      obtain rfl := Option.some.inj he
      exact ⟨rfl, Block.fault_of_six hsix hf, rfl, hsix⟩
    | none =>
      rw [press_digit_accepted hlen hf]
      have hgood : ∀ b ∈ m.blocks ++ [m.digits ++ [c]], Block.fault? b = none := by
        intro b hb
        rcases List.mem_append.1 hb with hb | hb
        · exact h.good b hb
        · rw [List.mem_singleton.1 hb, hf]
      refine ⟨hgood, by simp, Nat.zero_lt_succ _, by simpa using Nat.succ_le_of_lt hroom,
        fun hs => ?_, fun h8 => ⟨rfl, ?_⟩, by simp⟩
      · have h8 : Password.blockCount ≤ m.blocks.length + 1 := by
          by_contra h8
          simp [h8] at hs
        rw [List.length_append, List.length_singleton]
        omega
      · have h8' : Password.blockCount ≤ m.blocks.length + 1 := by
          rw [List.length_append, List.length_singleton] at h8
          omega
        simp [Machine.done, Stage.isFinal, h8']

theorem press_erase (h : Sound m) (hd : m.done = false) : Sound (m.press .erase) := by
  have hroom := h.room hd
  by_cases hdig : m.digits = []
  · rcases List.eq_nil_or_concat m.blocks with hb | ⟨bs, b, hb⟩
    · rw [press_erase_nothing hdig hb]
      exact sound_start
    · rw [List.concat_eq_append] at hb
      have hgood : ∀ a ∈ bs ++ [b], Block.fault? a = none := hb ▸ h.good
      have hsix := Block.isSixDigits_iff.1 (Block.isSixDigits_of_fault?_eq_none (hgood b (by simp)))
      have hbs : bs.length + 1 < Password.blockCount := by simpa [hb] using hroom
      rw [press_erase_block hdig hb]
      refine sound_of_room (fun a ha => hgood a (List.mem_append_left _ ha)) ?_ ?_
        (Nat.lt_of_succ_lt hbs) (by simp)
      · exact fun c hc => List.all_eq_true.1 hsix.2 c (List.mem_of_mem_take hc)
      · rw [List.length_take, hsix.1]
        decide
  · rw [press_erase_digit hdig]
    have hcur := h.cursor
    refine sound_of_room h.good (fun c hc => h.typed c (List.dropLast_subset _ hc)) ?_ hroom (by simp)
    rw [List.length_dropLast]
    omega

theorem press_other (h : Sound m) (hd : m.done = false) : Sound (m.press .other) := by
  have hroom := h.room hd
  have hs := done_eq_false_iff.1 (done_press_other hd)
  refine ⟨h.good, h.typed, h.cursor, h.count, fun e => absurd e hs.1, fun e => ?_, by simp [press]⟩
  · have hlen : (m.press .other).blocks.length = m.blocks.length := rfl
    omega

theorem press (h : Sound m) (hd : m.done = false) {s : Stroke}
    (hs : ∀ c, s = .digit c → c.isDigit = true) : Sound (m.press s) := by
  cases s with
  | digit c => exact h.press_digit hd (hs c rfl)
  | erase => exact h.press_erase hd
  | other => exact h.press_other hd

theorem abort (h : Sound m) : Sound m.abort :=
  ⟨h.good, by simp [Machine.abort], by simp [Machine.abort, Block.width], h.count,
    by simp [Machine.abort], fun _ => ⟨rfl, rfl⟩, fun e he => ⟨rfl, (h.rejected e he).2⟩⟩

theorem perform (h : Sound m) (a : Action) : Sound (m.perform a).2 := by
  cases a with
  | abort => exact h.abort
  | feed text =>
    cases hd : m.done with
    | true => rwa [perform_feed_of_done hd]
    | false =>
      rw [perform_feed hd]
      exact h.press hd fun c hc => isDigit_of_ofText hc

end Sound

theorem sound_after (actions : List Action) : Sound (after actions) :=
  after_induction sound_start (fun _ a h => h.perform a) actions

/-! ## The password -/

theorem password?_eq_some_iff {m : Machine} {p : List Char} :
    m.password? = some p ↔ m.stage = .allBlocksValid ∧ Password.join m.blocks = p := by
  unfold password?
  split
  · next hv => simp [hv]
  · next hv => simp [hv]

namespace Sound

variable {m : Machine}

theorem exists_shorts (h : Sound m) :
    ∃ ns : List Nat, (∀ n ∈ ns, n < 0x10000) ∧ m.blocks = ns.map Block.encode := by
  have hgood := h.good
  generalize m.blocks = bs at hgood
  induction bs with
  | nil => exact ⟨[], by simp, rfl⟩
  | cons b bs ih =>
    obtain ⟨n, hn, rfl⟩ := Block.fault?_eq_none_iff.1 (hgood b List.mem_cons_self)
    obtain ⟨ns, hns, rfl⟩ := ih fun a ha => hgood a (List.mem_cons_of_mem _ ha)
    exact ⟨n :: ns, List.forall_mem_cons.2 ⟨hn, hns⟩, rfl⟩

theorem width (h : Sound m) : ∀ b ∈ m.blocks, b.length = Block.width :=
  fun b hb => Block.length_of_fault?_eq_none (h.good b hb)

theorem shortValues_join (h : Sound m) (h8 : m.blocks.length = Password.blockCount) :
    ∃ ns, Password.shortValues (Password.join m.blocks) = .ok ns ∧
      (∀ place, m.blocks.map (Block.shortValue place) = ns.map .ok) ∧
      Packed.pack (ns.map Int.ofNat) = .ok (Packed.bytes ns) := by
  obtain ⟨ns, hns, hb⟩ := h.exists_shorts
  have hlen : ns.length = Password.blockCount := by rw [← h8, hb, List.length_map]
  refine ⟨ns, ?_, fun place => ?_, Packed.pack_ofNat hlen hns⟩
  · rw [hb]
    exact Password.shortValues_encode hlen hns
  · rw [hb, List.map_map]
    exact List.map_congr_left fun n hn => Block.shortValue_encode place (hns n hn)

theorem separator_not_mem (h : Sound m) : ∀ b ∈ m.blocks, Password.separator ∉ b := by
  intro b hb hs
  have hd := Block.isDigit_of_fault?_eq_none (h.good b hb) _ hs
  exact absurd hd (by decide)

end Sound

/-- **What holds after any actions.** At most eight blocks, all good; at most five digits in progress;
an eighth block only with no digits behind it, at the end of the entry; the last rejection is that of six
digits at the place where the machine stands, for being no multiple of eleven or too large; and there is
a password just when all blocks are valid, of 55 characters with hyphens at the seven places between the
blocks, which is accepted with the short values of the blocks, and these are packed. -/
theorem invariant_after (actions : List Action) :
    let m := after actions
    m.blocks.length ≤ 8 ∧
    (∀ b ∈ m.blocks, ∀ place, ∃ n, Block.shortValue place b = .ok n) ∧
    (m.digits.length ≤ 5 ∧ ∀ c ∈ m.digits, c.isDigit = true) ∧
    (m.blocks.length = 8 → m.digits = [] ∧ (m.stage = .allBlocksValid ∨ m.stage = .aborted)) ∧
    (∀ e, m.lastError = some e → m.digits = [] ∧
      (e.failure.kind = .checksum ∨ e.failure.kind = .outOfRange) ∧ e.fault ≠ .wrongCheckDigit ∧
      e.failure.block = some (m.place : Int) ∧
      ∃ s, e.failure.value = some s ∧ s.length = 6 ∧ ∀ c ∈ s, c.isDigit = true) ∧
    (m.password?.isSome ↔ m.stage = .allBlocksValid) ∧
    ∀ p, m.password? = some p → p.length = 55 ∧
      (∀ i < 55, p[i]? = some '-' ↔ i ∈ [6, 13, 20, 27, 34, 41, 48]) ∧
      m.blocks.length = 8 ∧ ∃ ns, Password.shortValues p = .ok ns ∧
        (∀ place, m.blocks.map (Block.shortValue place) = ns.map .ok) ∧
        Packed.pack (ns.map Int.ofNat) = .ok (Packed.bytes ns) := by
  intro m
  have h : Sound m := sound_after actions
  refine ⟨h.count, fun b hb place => ?_, ⟨Nat.le_of_lt_succ h.cursor, h.typed⟩, fun h8 => ?_,
    fun e he => ?_, ?_, fun p hp => ?_⟩
  · obtain ⟨n, hn, rfl⟩ := Block.fault?_eq_none_iff.1 (h.good b hb)
    exact ⟨n, Block.shortValue_encode place hn⟩
  · obtain ⟨hd, hdone⟩ := h.full h8
    refine ⟨hd, ?_⟩
    by_contra hs
    rw [not_or] at hs
    rw [done_eq_false_iff.2 hs] at hdone
    cases hdone
  · obtain ⟨hd, hf, hplace, hsix⟩ := h.rejected e he
    obtain ⟨hlen, hall⟩ := Block.isSixDigits_iff.1 hsix
    refine ⟨hd, ?_, ?_, congrArg some hplace, e.digits, rfl, hlen, List.all_eq_true.1 hall⟩
    · rcases hf with hf | hf <;> simp [BlockError.failure, BlockError.kind, hf]
    · rcases hf with hf | hf <;> simp [hf]
  · constructor
    · intro hsome
      obtain ⟨p, hp⟩ := Option.isSome_iff_exists.1 hsome
      exact (password?_eq_some_iff.1 hp).1
    · intro hv
      rw [password?_eq_some_iff.2 ⟨hv, rfl⟩, Option.isSome_some]
  · obtain ⟨hv, rfl⟩ := password?_eq_some_iff.1 hp
    have h8 := h.valid hv
    exact ⟨Password.length_join_eight h8 h.width,
      fun i hi => Password.getElem?_join_eq_separator_iff h8 h.width h.separator_not_mem hi, h8,
      h.shortValues_join h8⟩

/-- Characters given one by one. -/
def typing (text : List Char) : List Action := text.map fun c => .feed [c]

/-- A bad second block, and eight good ones with a digit taken back on the way. -/
theorem invariant_after_typing :
    let bad := after (typing "000011000012".toList)
    let full := after (typing "00001\x7f11-720885000000000000000000000000000000000011".toList)
    (∃ e, bad.lastError = some e ∧ e.failure.block = some 2 ∧ bad.digits = []) ∧
      ∃ p, full.password? = some p ∧ p.length = 55 ∧ p[13]? = some '-' ∧
        ∃ ns, Password.shortValues p = .ok ns ∧
          full.blocks.map (Block.shortValue 1) = ns.map .ok := by
  intro bad full
  have hbad : bad.lastError.isSome = true := by decide +kernel
  have hblocks : bad.blocks = ["000011".toList] := by decide +kernel
  have hfull : full.stage = .allBlocksValid := by decide +kernel
  obtain ⟨e, he⟩ := Option.isSome_iff_exists.1 hbad
  obtain ⟨hdigits, -, -, hplace, -⟩ := (invariant_after _).2.2.2.2.1 e he
  obtain ⟨p, hp⟩ := Option.isSome_iff_exists.1 ((invariant_after _).2.2.2.2.2.1.2 hfull)
  obtain ⟨hlen, hhyphens, -, ns, hns, hvalues, -⟩ := (invariant_after _).2.2.2.2.2.2 p hp
  refine ⟨⟨e, he, ?_, hdigits⟩, p, hp, hlen, ?_, ns, hns, hvalues 1⟩
  · rw [hplace, place, hblocks]
    rfl
  · exact (hhyphens 13 (by decide)).2 (by decide)

end KeyRecovery.Machine
