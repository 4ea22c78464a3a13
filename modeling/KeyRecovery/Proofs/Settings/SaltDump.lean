import KeyRecovery.Proofs.Settings.Salt

/-!
# Dumped salts are read back

* `Salt.Spacing` : a separator of spaces and colons;
* `Salt.packed_dump` : behind such separators, the digits stand side by side;
* `Salt.read?_packed_recase` : they are read in either case of letter;
* `Salt.parse_recase_dump` : so a dumped salt is parsed as itself, with a mark and white space around it;
* `Salt.parse_dump_inverse` : dumping and parsing undo each other, and salts are the same just if their dumps
  are.
-/

namespace KeyRecovery.Salt

/-- Nothing but spaces and colons. -/
def Spacing (sep : List Char) : Prop := ∀ c ∈ sep, c = ' ' ∨ c = ':'

section Spaced

variable {sep : List Char} (hsep : Spacing sep)
include hsep

theorem packed_of_spacing : packed sep = [] := by
  refine List.filter_eq_nil_iff.2 fun c hc => ?_
  rcases hsep c hc with rfl | rfl <;> decide

theorem packed_dump (bytes : List UInt8) : packed (Hex.dump sep bytes) = Hex.dump [] bytes := by
  induction bytes with
  | nil => rfl
  | cons b bytes ih =>
    have hbyte : packed (Hex.byte b) = Hex.byte b := by
      refine List.filter_eq_self.2 fun c hc => ?_
      have hall : (Hex.lowercase.all fun c => c != ' ' && c != ':') = true := by decide
      exact List.all_eq_true.1 hall c (Hex.mem_lowercase_of_byte hc)
    have hgap : packed (if bytes = [] then [] else sep) = [] := by
      split
      · rfl
      · exact packed_of_spacing hsep
    rw [Hex.dump_cons_sep, packed_append, packed_append, hbyte, hgap, List.append_nil, ih, Hex.dump_cons]

/-- The characters of a dump are small already, and small again when they were made capitals. -/
theorem small_of_mem_dump {bytes : List UInt8} {c : Char} (h : c ∈ Hex.dump sep bytes) :
    c.toLower = c ∧ c.toUpper.toLower = c ∧ c.toNat < 128 ∧ c.toUpper.toNat < 128 := by
  have hall : ((' ' :: ':' :: Hex.lowercase).all fun c =>
      c.toLower = c ∧ c.toUpper.toLower = c ∧ c.toNat < 128 ∧ c.toUpper.toNat < 128) = true := by decide
  refine of_decide_eq_true (List.all_eq_true.1 hall c ?_)
  rcases Hex.mem_dump h with hc | hc
  · exact List.mem_cons_of_mem _ (List.mem_cons_of_mem _ hc)
  · rcases hsep c hc with rfl | rfl
    · exact List.mem_cons_self
    · exact List.mem_cons_of_mem _ List.mem_cons_self

theorem ascii_of_mem_recase_dump {upper : Nat → Bool} {bytes : List UInt8} {c : Char}
    (h : c ∈ Hex.recase upper (Hex.dump sep bytes)) : c.toNat < 128 := by
  obtain ⟨d, hd, hc⟩ := Hex.mem_recase h
  obtain ⟨-, -, hsmall, hcapital⟩ := small_of_mem_dump hsep hd
  rcases hc with rfl | rfl
  · exact hsmall
  · exact hcapital

theorem read?_packed_recase (upper : Nat → Bool) (bytes : List UInt8) :
    Hex.read? (packed (Hex.recase upper (Hex.dump sep bytes))) = some bytes := by
  have hascii : ∀ c ∈ Hex.recase upper (Hex.dump sep bytes), c.toNat < 128 :=
    fun c => ascii_of_mem_recase_dump hsep
  have hsmall : (Hex.recase upper (Hex.dump sep bytes)).map Char.toLower = Hex.dump sep bytes := by
    refine Hex.map_toLower_recase upper fun c hc => ?_
    obtain ⟨hlower, hupper, -⟩ := small_of_mem_dump hsep hc
    exact ⟨hlower, hupper⟩
  rw [← Hex.read?_map_toLower fun c hc => hascii c (mem_packed.1 hc).1, ← packed_map_toLower hascii, hsmall,
    packed_dump hsep, Hex.read?_of_pairs (Hex.pairs_dump bytes)]

/-- A dumped salt is parsed as itself, whatever its separators, the case of its letters, its mark and the white
space around it. -/
theorem parse_recase_dump {salt : List UInt8} (hlen : salt.length = 16) (upper : Nat → Bool)
    {front mark back : List Char} (hfront : Text.Blank front) (hmark : mark ∈ marks)
    (hback : Text.Blank back) :
    parse (front ++ mark ++ Hex.recase upper (Hex.dump sep salt) ++ back) = .ok salt := by
  have hpairs := pairs_packed_of_read? (read?_packed_recase hsep upper salt)
  exact parse_eq_ok_iff.2 ⟨⟨front, mark, _, back, rfl, hfront, hmark, inner_of_pairs hpairs, hback, hpairs⟩,
    hlen⟩

/-- It need not be decorated. -/
theorem parse_dump {salt : List UInt8} (hlen : salt.length = 16) : parse (Hex.dump sep salt) = .ok salt := by
  have hblank : Text.Blank [] := nofun
  have hbare : ([] : List Char) ∈ marks := List.mem_cons_self
  have h := parse_recase_dump hsep hlen (fun _ => false) hblank hbare hblank
  rwa [Hex.recase_none, List.append_nil] at h

end Spaced

/-- **Dumping and parsing undo each other.** A salt that is dumped with any spaces and colons between its bytes
is parsed as itself, also with any of its letters made capitals, with a mark in front and white space around it
all. What an accepted text is parsed as can be dumped with such separators and is parsed again as the same salt.
So two accepted texts stand for the same salt just if their salts have the same dump, whatever the
separator. -/
theorem parse_dump_inverse :
    (∀ (salt : List UInt8) (sep : List Char), salt.length = 16 → Spacing sep →
      ∀ (upper : Nat → Bool) (front mark back : List Char),
        Text.Blank front → mark ∈ marks → Text.Blank back →
          parse (front ++ mark ++ Hex.recase upper (Hex.dump sep salt) ++ back) = .ok salt) ∧
    (∀ (text : List Char) (salt : List UInt8), parse text = .ok salt →
      ∀ sep, Spacing sep → parse (Hex.dump sep salt) = .ok salt) ∧
    ∀ (text text' : List Char) (salt salt' : List UInt8), parse text = .ok salt → parse text' = .ok salt' →
      ∀ sep, salt = salt' ↔ Hex.dump sep salt = Hex.dump sep salt' := by
  refine ⟨fun salt sep hlen hsep upper front mark back hfront hmark hback =>
    parse_recase_dump hsep hlen upper hfront hmark hback, fun text salt h sep hsep => ?_,
    fun text text' salt salt' h h' sep => ⟨congrArg _, ?_⟩⟩
  · exact parse_dump hsep (parse_eq_ok_iff.1 h).2
  · exact Hex.dump_injective sep ((parse_eq_ok_iff.1 h).2.trans (parse_eq_ok_iff.1 h').2.symm)

/-- Three characters between the bytes, capitals at every third place, and a mark between white space of two
kinds; then a salt that differs in its last byte. -/
theorem parse_dump_inverse_capitals :
    let salt : List UInt8 := [0, 1, 2, 3, 10, 11, 12, 253, 254, 255, 252, 16, 17, 18, 19, 127]
    let other : List UInt8 := [0, 1, 2, 3, 10, 11, 12, 253, 254, 255, 252, 16, 17, 18, 19, 126]
    let text := "\u2003\u001f0X00:: 01:: 02:: 03:: 0A:: 0b:: 0c:: fD:: fe:: Ff:: fC:: 10:: 11:: 12:: 13:: 7f\u00a0".toList
    parse text = .ok salt ∧ parse (Hex.dump [':', ':'] salt) = .ok salt ∧
      parse (Hex.dump [] other) = .ok other ∧ Hex.dump ['-'] salt ≠ Hex.dump ['-'] other := by
  intro salt other text
  obtain ⟨hdump, hagain, hsame⟩ := parse_dump_inverse
  have hsep : Spacing [':', ':', ' '] := by simp [Spacing]
  have hcolons : Spacing [':', ':'] := by simp [Spacing]
  have hfront : Text.Blank ['\u2003', '\u001f'] := by simp [Text.Blank, Text.isBlank]
  have hback : Text.Blank ['\u00a0'] := by simp [Text.Blank, Text.isBlank]
  have htext : text = ['\u2003', '\u001f'] ++ ['0', 'X'] ++
      Hex.recase (fun i => i % 3 == 0) (Hex.dump [':', ':', ' '] salt) ++ ['\u00a0'] := by decide +kernel
  have hparse : parse text = .ok salt := by
    rw [htext]
    exact hdump salt _ rfl hsep _ _ _ _ hfront (by decide) hback
  have hother : parse (Hex.dump [] other) = .ok other := by decide +kernel
  refine ⟨hparse, hagain text salt hparse _ hcolons, hother, fun heq => ?_⟩
  exact absurd ((hsame text _ salt other hparse hother _).2 heq) (by decide)

end KeyRecovery.Salt
