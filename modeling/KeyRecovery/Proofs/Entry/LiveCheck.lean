import KeyRecovery.Proofs.Entry.Shown
import KeyRecovery.Proofs.Password.Rejection

/-!
# A block that is typed and a block that is given

A machine checks a block when its sixth digit is typed, a text is checked as a whole.

* `Password.FailsWithin p k` : text `p` is rejected for one of its first `k` blocks;
* `Password.not_failsWithin` : good blocks at its beginning exclude this;
* `live_check_eq_validation` : the machine commits a block just if a text that begins with the blocks of
  the machine is not rejected up to that block, and reports a bad block as the text is reported.
-/

namespace KeyRecovery

namespace Password

/-- Text `p` is rejected for one of the blocks `1` to `k`. -/
def FailsWithin (p : List Char) (k : Nat) : Prop :=
  ∃ e, shortValues p = .error (.block e) ∧ 1 ≤ e.place ∧ e.place ≤ k

theorem not_failsWithin {p : List Char} {k : Nat}
    (h : ∀ b ∈ (split p).take k, Block.fault? b = none) : ¬ FailsWithin p k := by
  rintro ⟨e, he, -, hle⟩
  obtain ⟨-, i, hplace, hi, hf, -⟩ := shortValues_eq_error_iff.1 he
  have hmem : e.digits ∈ (split p).take k := by
    refine List.mem_of_getElem? (i := i) ?_
    rw [List.getElem?_take_of_lt (by omega), hi]
  rw [h _ hmem] at hf
  cases hf

end Password

namespace Machine

/-- **Live and batch check agree.** Let a machine, after any actions, have five digits in progress, and let
a text of full length have as its first blocks those of the machine and the five digits with a sixth. The
machine takes the sixth digit. It commits the block just if the text is not rejected for any of the
blocks so far; otherwise it reports the very failure that the text is rejected for. -/
theorem live_check_eq_validation (actions : List Action) {c : Char} {p : List Char}
    (hd : (after actions).done = false) (h5 : (after actions).digits.length = 5)
    (hc : c.isDigit = true) (hp : p.length = 55)
    (hk : (Password.split p).take (after actions).place =
      (after actions).blocks ++ [(after actions).digits ++ [c]]) :
    let m := after actions
    ∃ m', m.feed [c] = .ok m' ∧
      (m'.blocks = m.blocks ++ [m.digits ++ [c]] ↔ ¬ Password.FailsWithin p m.place) ∧
      (m'.blocks = m.blocks ++ [m.digits ++ [c]] ↔ m'.lastError = none) ∧
      ∀ e, m'.lastError = some e →
        ∃ e', Password.shortValues p = .error e' ∧ e'.failure = e.failure := by
  intro m
  have h : Sound m := sound_after actions
  have hfull : m.digits.length + 1 = Block.width := congrArg (· + 1) h5
  have hfeed : m.feed [c] = .ok (m.press (.digit c)) := by
    rw [feed_eq hd, stroke_eq hd, Stroke.ofChar_of_isDigit hc]
  refine ⟨_, hfeed, ?_⟩
  cases hf : Block.fault? (m.digits ++ [c]) with
  | none =>
    have hgood : ∀ b ∈ (Password.split p).take m.place, Block.fault? b = none := by
      rw [hk]
      intro b hb
      rcases List.mem_append.1 hb with hb | hb
      · exact h.good b hb
      · rw [List.mem_singleton.1 hb, hf]
    rw [press_digit_accepted hfull hf]
    exact ⟨iff_of_true rfl (Password.not_failsWithin hgood), iff_of_true rfl rfl, nofun⟩
  | some f =>
    have hrejected : Password.shortValues p =
        .error (.block ⟨f, m.blocks.length + 1, m.digits ++ [c]⟩) :=
      Password.shortValues_of_first_fault hp (hk ▸ List.take_prefix _ _) h.good hf
    have hne : m.blocks ≠ m.blocks ++ [m.digits ++ [c]] := fun e => by
      simpa using congrArg List.length e
    have hfails : Password.FailsWithin p m.place :=
      ⟨_, hrejected, Int.le_add_of_nonneg_left (Int.natCast_nonneg _), Int.le_refl _⟩
    rw [press_digit_rejected hfull hf]
    refine ⟨iff_of_false hne (not_not.2 hfails), iff_of_false hne nofun, fun e he => ?_⟩
    obtain rfl := Option.some.inj he
    exact ⟨_, hrejected, rfl⟩

/-- A second block that was committed, reopened and typed again up to its last digit; the third block of
both texts is bad. -/
theorem live_check_eq_validation_reopened :
    let actions := typing "000011000022\x7f\x7f1".toList
    let rejected := "000011x000012x99999                                    ".toList
    let committed := "000011x000011x99999                                    ".toList
    let m := after actions
    m.done = false ∧ m.digits.length = 5 ∧
      (∃ m' e e', m.feed ['2'] = .ok m' ∧ m'.lastError = some e ∧ e.failure.block = some 2 ∧
        Password.shortValues rejected = .error e' ∧ e'.failure = e.failure) ∧
      (∃ m', m.feed ['1'] = .ok m' ∧ m'.blocks = m.blocks ++ [m.digits ++ ['1']]) ∧
      ¬ Password.FailsWithin committed 2 := by
  intro actions rejected committed m
  have hd : m.done = false := by decide +kernel
  have h5 : m.digits.length = 5 := by decide +kernel
  obtain ⟨m₁, h₁, -, -, hrejected⟩ := live_check_eq_validation actions (c := '2') (p := rejected) hd h5
    rfl rfl (by decide +kernel)
  obtain ⟨m₂, h₂, hcommits, hlast, -⟩ := live_check_eq_validation actions (c := '1') (p := committed) hd
    h5 rfl rfl (by decide +kernel)
  have hplace : m.place = 2 := by decide +kernel
  obtain rfl : m.stroke '2' = m₁ := Except.ok.inj ((feed_eq hd '2').symm.trans h₁)
  obtain rfl : m.stroke '1' = m₂ := Except.ok.inj ((feed_eq hd '1').symm.trans h₂)
  have hbad : (m.stroke '2').lastError = some ⟨.notMultiple, 2, "000012".toList⟩ := by decide +kernel
  have hblocks := hlast.2 (by decide +kernel)
  obtain ⟨e', he', hsame⟩ := hrejected _ hbad
  exact ⟨hd, h5, ⟨_, _, e', h₁, hbad, rfl, he', hsame⟩, ⟨_, h₂, hblocks⟩, hplace ▸ hcommits.1 hblocks⟩

end Machine

end KeyRecovery
