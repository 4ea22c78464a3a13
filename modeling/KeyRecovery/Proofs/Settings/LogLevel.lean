import KeyRecovery.Proofs.Text.Hex
import KeyRecovery.Proofs.Text.Numeral
import KeyRecovery.Settings.LogLevel

/-!
# Which texts are log levels

* `LogLevel.words` : the letters beyond ASCII that are ASCII letters in capitals;
* `Raised s t` : a text in capitals, `raised_capitals` : `capitals` makes one, with other letters left as they are;
* `lookup_names_eq_some_iff`, `named?_eq_some_iff` : the level with a name is the one whose name the capitals are;
* `named?_of_marks` : no name is made of digits;
* `parse_of_marks`, `parse_of_not_marks` : what is read as a number, and what is looked up;
* `parse_numeral_or_name` : levels are numbers and names, and each rejection has its texts;
* `exponent_not_unknown` : digits that are no decimal ones are not reported as all else is.
-/

namespace KeyRecovery.LogLevel

/-! ## Capitals -/

def words : List (Char × List Char) :=
  [('\u00df', ['S', 'S']), ('\u0131', ['I']), ('\u017f', ['S']), ('\ufb00', ['F', 'F']), ('\ufb01', ['F', 'I']),
    ('\ufb02', ['F', 'L']), ('\ufb03', ['F', 'F', 'I']), ('\ufb04', ['F', 'F', 'L']), ('\ufb05', ['S', 'T']),
    ('\ufb06', ['S', 'T'])]

/-- A text in capitals. The capitals of a character beyond ASCII are not all ASCII, but for ten letters. -/
inductive Raised : List Char → List Char → Prop
  | nil : Raised [] []
  | ascii {c : Char} {s t : List Char} : c.toNat < 128 → Raised s t → Raised (c :: s) (c.toUpper :: t)
  | word {c : Char} {form s t : List Char} : (c, form) ∈ words → Raised s t → Raised (c :: s) (form ++ t)
  | other {c : Char} {form s t : List Char} : 128 ≤ c.toNat → (∀ word ∈ words, word.1 ≠ c) →
      (∃ d ∈ form, 128 ≤ d.toNat) → Raised s t → Raised (c :: s) (form ++ t)

theorem capital_of_ascii {c : Char} (h : c.toNat < 128) : capital c = [c.toUpper] :=
  Hex.of_ascii (P := fun c => capital c = [c.toUpper]) (by decide +kernel) h

theorem capital_of_word {c : Char} {form : List Char} (h : (c, form) ∈ words) : capital c = form := by
  have hall : ∀ word ∈ words, capital word.1 = word.2 := by decide +kernel
  exact hall _ h

theorem capital_of_other {c : Char} (h : 128 ≤ c.toNat) (hwords : ∀ word ∈ words, word.1 ≠ c) :
    capital c = [c] := by
  have hsmall : ¬ ('a' ≤ c ∧ c ≤ 'z') := by
    rintro ⟨-, hz⟩
    have hle : c.toNat ≤ 122 := hz
    omega
  simp only [words, List.forall_mem_cons, ne_eq] at hwords
  unfold capital
  grind

theorem raised_cons (c : Char) {s t : List Char} (h : Raised s t) : Raised (c :: s) (capital c ++ t) := by
  by_cases hc : c.toNat < 128
  · rw [capital_of_ascii hc]
    exact .ascii hc h
  by_cases hword : ∃ word ∈ words, word.1 = c
  · obtain ⟨⟨_, form⟩, hmem, rfl⟩ := hword
    rw [capital_of_word hmem]
    exact .word hmem h
  · have hother : ∀ word ∈ words, word.1 ≠ c := fun word hmem heq => hword ⟨word, hmem, heq⟩
    rw [capital_of_other (Nat.le_of_not_lt hc) hother]
    exact .other (Nat.le_of_not_lt hc) hother ⟨c, List.mem_singleton_self c, Nat.le_of_not_lt hc⟩ h

theorem raised_capitals (s : List Char) : Raised s (capitals s) := by
  induction s with
  | nil => exact .nil
  | cons c s ih => exact raised_cons c ih

/-- A text in capitals is the one that is looked up, or is no ASCII text, nor is that one. -/
theorem Raised.eq_or_beyond {s t : List Char} (h : Raised s t) :
    t = capitals s ∨ (∃ d ∈ capitals s, 128 ≤ d.toNat) ∧ ∃ d ∈ t, 128 ≤ d.toNat := by
  induction h with
  | nil => exact .inl rfl
  | @ascii c s t hc _ ih =>
    rw [capitals, List.flatMap_cons, capital_of_ascii hc]
    rcases ih with rfl | ⟨⟨d, hd, hbeyond⟩, e, he, hbeyond'⟩
    · exact .inl rfl
    · exact .inr ⟨⟨d, List.mem_cons_of_mem _ hd, hbeyond⟩, e, List.mem_cons_of_mem _ he, hbeyond'⟩
  | @word c form s t hword _ ih =>
    rw [capitals, List.flatMap_cons, capital_of_word hword]
    rcases ih with rfl | ⟨⟨d, hd, hbeyond⟩, e, he, hbeyond'⟩
    · exact .inl rfl
    · exact .inr ⟨⟨d, List.mem_append_right _ hd, hbeyond⟩, e, List.mem_append_right _ he, hbeyond'⟩
  | @other c form s t hc hwords hform _ ih =>
    rw [capitals, List.flatMap_cons, capital_of_other hc hwords]
    obtain ⟨d, hd, hbeyond⟩ := hform
    exact .inr ⟨⟨c, List.mem_cons_self, hc⟩, d, List.mem_append_left _ hd, hbeyond⟩

/-! ## Names -/

theorem capital_letter_of_name {name : String} {n : Int} (h : (name, n) ∈ names) :
    ∀ d ∈ name.toList, 65 ≤ d.toNat ∧ d.toNat ≤ 90 := by
  have hall : (names.all fun p => p.1.toList.all fun d => 65 ≤ d.toNat ∧ d.toNat ≤ 90) = true := by
    decide +kernel
  intro d hd
  exact of_decide_eq_true (List.all_eq_true.1 (List.all_eq_true.1 hall (name, n) h) d hd)

theorem lookup_names_eq_some_iff {name : String} {n : Int} :
    names.lookup name = some n ↔ (name, n) ∈ names := by
  constructor
  · intro h
    obtain ⟨before, behind, hnames, -⟩ := List.lookup_eq_some_iff.1 h
    rw [hnames]
    exact List.mem_append_right _ List.mem_cons_self
  · have hall : ∀ p ∈ names, names.lookup p.1 = some p.2 := by decide +kernel
    exact hall (name, n)

theorem lookup_names_eq_none_iff {name : String} :
    names.lookup name = none ↔ ¬ ∃ n, (name, n) ∈ names := by
  simp only [← lookup_names_eq_some_iff, not_exists, ← ne_eq, Option.eq_none_iff_forall_ne_some]

theorem not_mem_names_of_beyond {t : List Char} (h : ∃ d ∈ t, 128 ≤ d.toNat) (n : Int) :
    (String.ofList t, n) ∉ names := by
  obtain ⟨d, hd, hbeyond⟩ := h
  intro hmem
  have hle : d.toNat ≤ 90 := (capital_letter_of_name hmem d (by rwa [String.toList_ofList])).2
  omega

theorem named?_eq_some_iff {s t : List Char} (h : Raised s t) {n : Int} :
    named? s = some n ↔ (String.ofList t, n) ∈ names := by
  unfold named?
  rw [lookup_names_eq_some_iff]
  rcases h.eq_or_beyond with rfl | ⟨hs, ht⟩
  · exact Iff.rfl
  · exact iff_of_false (not_mem_names_of_beyond hs n) (not_mem_names_of_beyond ht n)

theorem capital_of_isDigitMark {c : Char} (h : Text.isDigitMark c = true) : capital c = [c] := by
  by_cases hc : c.toNat < 128
  · exact Hex.of_ascii (P := fun c => Text.isDigitMark c = true → capital c = [c]) (by decide +kernel) hc h
  · refine capital_of_other (Nat.le_of_not_lt hc) fun word hword heq => ?_
    have hall : ∀ word ∈ words, Text.isDigitMark word.1 = false := by decide +kernel
    have hnot := hall word hword
    rw [heq, h] at hnot
    cases hnot

theorem named?_of_marks {s : List Char} (h : Text.Marks s) : named? s = none := by
  obtain ⟨hne, hmarks⟩ := h
  obtain ⟨c, hc⟩ := List.exists_mem_of_ne_nil s hne
  refine Option.eq_none_iff_forall_ne_some.2 fun n hn => ?_
  have hmem : c ∈ capitals s := List.mem_flatMap.2 ⟨c, hc, by simp [capital_of_isDigitMark (hmarks c hc)]⟩
  obtain ⟨hA, hZ⟩ := capital_letter_of_name (lookup_names_eq_some_iff.1 hn) c (by rwa [String.toList_ofList])
  have hascii : c.toNat < 128 := Nat.lt_of_le_of_lt hZ (by decide)
  have hnot : Text.isDigitMark c = false :=
    Hex.of_ascii (P := fun c => 'A' ≤ c → c ≤ 'Z' → Text.isDigitMark c = false) (by decide +kernel) hascii hA hZ
  rw [hmarks c hc] at hnot
  cases hnot

/-! ## Levels -/

theorem parse_of_marks {s : List Char} (h : Text.Marks s) (hlen : s.length ≤ digitLimit) :
    parse s = (Text.decimal? s).elim (.error (.notDecimal s)) fun n => .ok (n : Int) := by
  have hlimit : ¬ digitLimit < Text.leadingDecimals s :=
    Nat.not_lt_of_le (Nat.le_trans (Text.leadingDecimals_le s) hlen)
  unfold parse
  rw [if_pos (Text.isMarks_iff.2 h), if_neg hlimit]
  cases Text.decimal? s <;> rfl

theorem parse_of_not_marks {s : List Char} (h : ¬ Text.Marks s) :
    parse s = (named? s).elim (.error (.unknown s)) .ok := by
  unfold parse
  rw [if_neg (mt Text.isMarks_iff.1 h)]
  cases named? s <;> rfl

theorem parse_of_numeral {s : List Char} {k : Nat} (h : Text.Numeral s k) (hlen : s.length ≤ digitLimit) :
    parse s = .ok (k : Int) := by
  rw [parse_of_marks h.marks hlen, Text.decimal?_eq_some_iff.2 h, Option.elim_some]

theorem parse_of_named {s : List Char} {n : Int} (h : named? s = some n) : parse s = .ok n := by
  have hmarks : ¬ Text.Marks s := fun hm => by
    rw [named?_of_marks hm] at h
    cases h
  rw [parse_of_not_marks hmarks, h, Option.elim_some]

/-- The rejection of digits that are no number. -/
theorem parse_of_no_numeral {s : List Char} (h : Text.Marks s) (hnone : ¬ ∃ k, Text.Numeral s k)
    (hlen : s.length ≤ digitLimit) : parse s = .error (.notDecimal s) := by
  rw [parse_of_marks h hlen, Text.decimal?_eq_none_iff.2 hnone, Option.elim_none]

/-- The rejection of all else that is no level. -/
theorem parse_of_no_name {s : List Char} (h : ¬ Text.Marks s) (hnone : ∀ n, named? s ≠ some n) :
    parse s = .error (.unknown s) := by
  rw [parse_of_not_marks h, Option.eq_none_iff_forall_ne_some.2 hnone, Option.elim_none]

theorem parse_eq_ok_iff {s : List Char} (hlen : s.length ≤ digitLimit) {n : Int} :
    parse s = .ok n ↔ (∃ k : Nat, Text.Numeral s k ∧ n = k) ∨ named? s = some n := by
  constructor
  · intro h
    by_cases hmarks : Text.Marks s
    · by_cases hnumeral : ∃ k, Text.Numeral s k
      · obtain ⟨k, hk⟩ := hnumeral
        rw [parse_of_numeral hk hlen] at h
        exact .inl ⟨k, hk, (Except.ok.inj h).symm⟩
      · rw [parse_of_no_numeral hmarks hnumeral hlen] at h
        cases h
    · rw [parse_of_not_marks hmarks] at h
      cases hn : named? s with
      | some level =>
        rw [hn, Option.elim_some] at h
        exact .inr (congrArg some (Except.ok.inj h))
      | none =>
        rw [hn, Option.elim_none] at h
        cases h
  · rintro (⟨k, hk, rfl⟩ | hn)
    · exact parse_of_numeral hk hlen
    · exact parse_of_named hn

/-- **Levels are numbers and names, and all else is reported.** A text of at most 4300 characters is read as a
level just if it is a number in decimal digits of any scripts, and then as this number, or if in capitals it is
the name of the level. It is reported to be unknown, with the text as it is quoted, if it is no name and not made
of digits, and it is reported to be no number, with two hundred characters of that, if it is made of digits that
are not all decimal. -/
theorem parse_numeral_or_name {s t : List Char} (hlen : s.length ≤ 4300) (hraised : Raised s t) :
    (∀ n, parse s = .ok n ↔ (∃ k : Nat, Text.Numeral s k ∧ n = k) ∨ (String.ofList t, n) ∈ names) ∧
    (¬ Text.Marks s → (¬ ∃ n, (String.ofList t, n) ∈ names) →
      (parse s).mapError LevelError.message = .error ("unknown log level: " ++ Text.quoted s)) ∧
    (Text.Marks s → (¬ ∃ k, Text.Numeral s k) →
      (parse s).mapError LevelError.message = .error ("invalid literal for int() with base 10: " ++
        String.ofList ((Text.Quoted.quote s).take 200))) := by
  refine ⟨fun n => ?_, fun hmarks hnone => ?_, fun hmarks hnone => ?_⟩
  · rw [parse_eq_ok_iff hlen, named?_eq_some_iff hraised]
  · have hname : ∀ n, named? s ≠ some n := fun n hn => hnone ⟨n, (named?_eq_some_iff hraised).1 hn⟩
    rw [parse_of_no_name hmarks hname]
    rfl
  · rw [parse_of_no_numeral hmarks hnone hlen]
    rfl

/-- Digits of three scripts, names that are written with a dotless i and a long s, and three texts that are no
level: one with a ligature, the empty one, and a number with an exponent. -/
theorem parse_numeral_or_name_scripts :
    parse ['1', '\u0662', '\uff13'] = .ok 123 ∧ parse "\u0131nfo".toList = .ok 20 ∧
      parse "not\u017fet".toList = .ok 0 ∧
      (parse "\ufb00".toList).mapError LevelError.message = .error "unknown log level: \x27\ufb00\x27" ∧
      (parse []).mapError LevelError.message = .error "unknown log level: \x27\x27" ∧
      (parse ['2', '\u00b2']).mapError LevelError.message =
        .error "invalid literal for int() with base 10: \x272\u00b2\x27" := by
  have hnumeral : Text.Numeral ['1', '\u0662', '\uff13'] 123 :=
    Text.decimal?_eq_some_iff.1 (by decide +kernel)
  have hnone : ¬ ∃ k, Text.Numeral ['2', '\u00b2'] k := Text.decimal?_eq_none_iff.1 (by decide +kernel)
  obtain ⟨hscripts, -⟩ := parse_numeral_or_name (s := ['1', '\u0662', '\uff13']) (by decide) (raised_capitals _)
  obtain ⟨hinfo, -⟩ := parse_numeral_or_name (s := "\u0131nfo".toList) (by decide) (raised_capitals _)
  obtain ⟨hnotset, -⟩ := parse_numeral_or_name (s := "not\u017fet".toList) (by decide) (raised_capitals _)
  obtain ⟨-, hligature, -⟩ := parse_numeral_or_name (s := "\ufb00".toList) (by decide) (raised_capitals _)
  obtain ⟨-, hempty, -⟩ := parse_numeral_or_name (s := []) (by decide) .nil
  obtain ⟨-, -, hexponent⟩ := parse_numeral_or_name (s := ['2', '\u00b2']) (by decide) (raised_capitals _)
  refine ⟨(hscripts 123).2 (.inl ⟨123, hnumeral, rfl⟩), (hinfo 20).2 (.inr ?_), (hnotset 0).2 (.inr ?_),
    (hligature ?_ (lookup_names_eq_none_iff.1 ?_)).trans ?_,
    (hempty ?_ (lookup_names_eq_none_iff.1 ?_)).trans ?_, (hexponent ?_ hnone).trans ?_⟩
  all_goals decide +kernel

/-- An exponent alone is neither a number nor a name, and yet it is not reported to be unknown. -/
theorem exponent_not_unknown :
    (¬ ∃ k, Text.Numeral ['\u00b2'] k) ∧ Raised ['\u00b2'] ['\u00b2'] ∧
      (¬ ∃ n, (String.ofList ['\u00b2'], n) ∈ names) ∧
      (parse ['\u00b2']).mapError LevelError.message =
        .error "invalid literal for int() with base 10: \x27\u00b2\x27" ∧
      "invalid literal for int() with base 10: \x27\u00b2\x27" ≠
        "unknown log level: " ++ Text.quoted ['\u00b2'] := by
  refine ⟨Text.decimal?_eq_none_iff.1 ?_, raised_capitals _, lookup_names_eq_none_iff.1 ?_, ?_, ?_⟩
  all_goals decide +kernel

end KeyRecovery.LogLevel
