import KeyRecovery.Proofs.Text.Blank
import KeyRecovery.Proofs.Text.Hex
import KeyRecovery.Settings.Salt

/-!
# How a salt is written

* `Salt.Inner`, `Salt.Written` : the characters behind the mark, and the texts that are bytes written in hex;
* `Salt.read?_packed_of_blank`, `Salt.dropMark_trim` : what trimming drops behind the mark is not read;
* `Salt.read?_body_eq_some_iff` : so the texts that are read are the written ones, each as its bytes;
* `Salt.Lowered`, `Salt.read?_of_lowered` : a text in small letters, which is read in the same way;
* `Salt.parse_cases` : the three answers about a text;
* `Salt.parse_accepts_written` : salts are written texts of sixteen bytes, and each rejection has its texts.
-/

namespace KeyRecovery.Salt

/-- What may stand in front of the digits. -/
def marks : List (List Char) := [[], ['0', 'x'], ['0', 'X']]

/-- A text without its spaces and colons. -/
def packed (s : List Char) : List Char := s.filter fun c => c != ' ' && c != ':'

/-- A character that may stand behind the mark. -/
def Inner (c : Char) : Prop := (∃ v, Hex.Denotes c v) ∨ c = ' ' ∨ c = ':' ∨ c ∈ Hex.gaps

/-- A text is bytes in hex, marked or not, with white space around them. -/
def Written (text : List Char) (bytes : List UInt8) : Prop :=
  ∃ front mark inner back, text = front ++ mark ++ inner ++ back ∧ Text.Blank front ∧ mark ∈ marks ∧
    (∀ c ∈ inner, Inner c) ∧ Text.Blank back ∧ Hex.Pairs (packed inner) bytes

/-! ## Characters behind the mark -/

theorem inner_iff {c : Char} : Inner c ↔ Hex.digit? c ≠ none ∨ c = ' ' ∨ c = ':' ∨ c ∈ Hex.gaps := by
  simp only [Inner, ← Hex.digit?_eq_some_iff, ← Option.ne_none_iff_exists']

instance (c : Char) : Decidable (Inner c) := decidable_of_iff' _ inner_iff

theorem Inner.ascii {c : Char} (h : Inner c) : c.toNat < 128 := by
  rcases h with ⟨v, hv⟩ | rfl | rfl | h
  · exact hv.ascii
  · decide
  · decide
  · have hall : (Hex.gaps.all fun c => c.toNat < 128) = true := by decide
    exact of_decide_eq_true (List.all_eq_true.1 hall c h)

theorem packed_append (s t : List Char) : packed (s ++ t) = packed s ++ packed t :=
  List.filter_append s t

theorem mem_packed {s : List Char} {c : Char} : c ∈ packed s ↔ c ∈ s ∧ c ≠ ' ' ∧ c ≠ ':' := by
  simp [packed]

theorem inner_of_pairs {s : List Char} {bytes : List UInt8} (h : Hex.Pairs (packed s) bytes) :
    ∀ c ∈ s, Inner c := by
  intro c hc
  by_cases hspace : c = ' '
  · exact .inr (.inl hspace)
  by_cases hcolon : c = ':'
  · exact .inr (.inr (.inl hcolon))
  rcases h.mem c (mem_packed.2 ⟨hc, hspace, hcolon⟩) with hdigit | hgap
  · exact .inl hdigit
  · exact .inr (.inr (.inr hgap))

theorem pairs_packed_of_read? {s : List Char} {bytes : List UInt8} (h : Hex.read? (packed s) = some bytes) :
    Hex.Pairs (packed s) bytes :=
  (Hex.read?_eq_some_iff fun hm => (mem_packed.1 hm).2.1 rfl).1 h

/-- White space behind the mark is dropped or may stand between the pairs. -/
theorem isAsciiGap_of_mem_packed {s : List Char} (hs : Text.Blank s) (h : ∀ c ∈ s, Inner c) :
    ∀ c ∈ packed s, Text.isAsciiGap c = true := by
  intro c hc
  have hcs := (mem_packed.1 hc).1
  exact Hex.of_ascii (P := fun c => Inner c → Text.isBlank c = true → Text.isAsciiGap c = true) (by decide)
    (h c hcs).ascii (h c hcs) (hs c hcs)

theorem read?_packed_of_blank {v s w : List Char} (hv : Text.Blank v) (hw : Text.Blank w)
    (h : ∀ c ∈ v ++ s ++ w, Inner c) : Hex.read? (packed (v ++ s ++ w)) = Hex.read? (packed s) := by
  have hgaps : ∀ c ∈ packed v, Text.isAsciiGap c = true :=
    isAsciiGap_of_mem_packed hv fun c hc => h c (List.mem_append_left _ (List.mem_append_left _ hc))
  have hgaps' : ∀ c ∈ packed w, Text.isAsciiGap c = true :=
    isAsciiGap_of_mem_packed hw fun c hc => h c (List.mem_append_right _ hc)
  rw [packed_append, packed_append, Hex.read?_append_gaps _ hgaps', Hex.read?_append_of_gaps hgaps]

/-! ## The mark -/

theorem exists_eq_mark_append (s : List Char) : ∃ mark ∈ marks, s = mark ++ dropMark s := by
  fun_cases dropMark s
  · exact ⟨['0', 'x'], by decide, rfl⟩
  · exact ⟨['0', 'X'], by decide, rfl⟩
  · exact ⟨[], by decide, rfl⟩

theorem dropMark_of_not_marked {s : List Char}
    (h : ∀ c d rest, s = c :: d :: rest → c = '0' → d ≠ 'x' ∧ d ≠ 'X') : dropMark s = s := by
  fun_cases dropMark s
  · exact absurd rfl (h _ _ _ rfl rfl).1
  · exact absurd rfl (h _ _ _ rfl rfl).2
  · rfl

theorem dropMark_of_inner {s : List Char} (h : ∀ c ∈ s, Inner c) : dropMark s = s := by
  refine dropMark_of_not_marked ?_
  rintro c d rest rfl -
  have hd : Inner d := h d (by simp)
  refine ⟨?_, ?_⟩
  all_goals
    rintro rfl
    exact absurd hd (by decide)

theorem dropMark_trim {mark : List Char} (h : mark ∈ marks) (hne : mark ≠ []) (s : List Char) :
    dropMark (Text.trim (mark ++ s)) = s.rdropWhile Text.isBlank := by
  have hzero : Text.isBlank '0' = false := by decide
  simp only [marks, List.mem_cons, hne, false_or, List.not_mem_nil, or_false] at h
  rcases h with rfl | rfl
  all_goals rw [List.cons_append, Text.trim_cons_of_not_blank hzero, List.singleton_append,
    Text.rdropWhile_cons_of_not_blank (by decide), dropMark]

/-! ## Reading -/

theorem read?_body {front mark inner back : List Char} (hfront : Text.Blank front) (hmark : mark ∈ marks)
    (hinner : ∀ c ∈ inner, Inner c) (hback : Text.Blank back) :
    Hex.read? (body (front ++ mark ++ inner ++ back)) = Hex.read? (packed inner) := by
  have hbody : body (front ++ mark ++ inner ++ back) = packed (dropMark (Text.trim (mark ++ inner))) := by
    rw [body, Text.trim_append_blank _ hback, List.append_assoc, Text.trim_append_of_blank hfront, packed]
  rw [hbody]
  rcases eq_or_ne mark [] with rfl | hne
  · obtain ⟨v, w, hv, hw, htrim⟩ := Text.exists_eq_append_trim inner
    rw [htrim] at hinner
    have hrest : ∀ c ∈ Text.trim inner, Inner c := fun c hc =>
      hinner c (List.mem_append_left _ (List.mem_append_right _ hc))
    rw [List.nil_append, dropMark_of_inner hrest, ← read?_packed_of_blank hv hw hinner, ← htrim]
  · have hcut : inner = [] ++ inner.rdropWhile Text.isBlank ++ inner.rtakeWhile Text.isBlank :=
      List.rdropWhile_append_rtakeWhile.symm
    have hv : Text.Blank [] := nofun
    have hw : Text.Blank (inner.rtakeWhile Text.isBlank) := fun c => List.mem_rtakeWhile_imp
    rw [hcut] at hinner
    rw [dropMark_trim hmark hne, ← read?_packed_of_blank hv hw hinner, ← hcut]

theorem read?_body_eq_some_iff {text : List Char} {bytes : List UInt8} :
    Hex.read? (body text) = some bytes ↔ Written text bytes := by
  constructor
  · intro h
    obtain ⟨front, back, hfront, hback, htext⟩ := Text.exists_eq_append_trim text
    obtain ⟨mark, hmark, htrim⟩ := exists_eq_mark_append (Text.trim text)
    have hpairs : Hex.Pairs (packed (dropMark (Text.trim text))) bytes := pairs_packed_of_read? h
    refine ⟨front, mark, dropMark (Text.trim text), back, ?_, hfront, hmark, inner_of_pairs hpairs, hback,
      hpairs⟩
    rw [List.append_assoc front, ← htrim, ← htext]
  · rintro ⟨front, mark, inner, back, rfl, hfront, hmark, hinner, hback, hpairs⟩
    rw [read?_body hfront hmark hinner hback, Hex.read?_of_pairs hpairs]

/-- A text is written for one byte string at most. -/
theorem Written.unique {text : List Char} {bytes other : List UInt8} (h : Written text bytes)
    (h' : Written text other) : bytes = other :=
  Option.some.inj ((read?_body_eq_some_iff.2 h).symm.trans (read?_body_eq_some_iff.2 h'))

/-! ## Small letters -/

/-- A text in small letters. Beyond ASCII, the Kelvin sign and the dotted capital I are the two letters whose
small forms are not beyond it. -/
inductive Lowered : List Char → List Char → Prop
  | nil : Lowered [] []
  | ascii {c : Char} {s t : List Char} : c.toNat < 128 → Lowered s t → Lowered (c :: s) (c.toLower :: t)
  | kelvin {s t : List Char} : Lowered s t → Lowered ('\u212a' :: s) ('k' :: t)
  | dotted {s t : List Char} : Lowered s t → Lowered ('\u0130' :: s) ('i' :: '\u0307' :: t)
  | other {c : Char} {form s t : List Char} : 128 ≤ c.toNat → form ≠ [] → (∀ d ∈ form, 128 ≤ d.toNat) →
      Lowered s t → Lowered (c :: s) (form ++ t)

/-- A character that no salt is written with. -/
def Stray (c : Char) : Prop := ¬ Inner c ∧ c ≠ 'x' ∧ c ≠ 'X'

instance (c : Char) : Decidable (Stray c) := inferInstanceAs (Decidable (_ ∧ _))

theorem stray_of_not_ascii {c : Char} (h : 128 ≤ c.toNat) : Stray c := by
  refine ⟨fun hc => Nat.not_lt_of_le h hc.ascii, ?_, ?_⟩
  all_goals
    rintro rfl
    exact absurd h (by decide)

theorem not_stray_of_mark {mark : List Char} (h : mark ∈ marks) {c : Char} (hc : c ∈ mark) : ¬ Stray c := by
  have hall : (marks.all fun mark => mark.all fun c => !decide (Stray c)) = true := by decide
  have hc' := List.all_eq_true.1 (List.all_eq_true.1 hall mark h) c hc
  exact of_decide_eq_false (Bool.not_eq_true' _ ▸ hc')

theorem read?_of_stray {s : List Char} (h : ∃ c ∈ s, Stray c) : Hex.read? (packed (dropMark s)) = none := by
  obtain ⟨c, hc, hstray⟩ := h
  obtain ⟨mark, hmark, hs⟩ := exists_eq_mark_append s
  rw [hs] at hc
  refine Option.eq_none_iff_forall_ne_some.2 fun bytes hb => ?_
  rcases List.mem_append.1 hc with hc | hc
  · exact not_stray_of_mark hmark hc hstray
  · exact hstray.1 (inner_of_pairs (pairs_packed_of_read? hb) c hc)

theorem Lowered.ascii_or_stray {s t : List Char} (h : Lowered s t) :
    ((∀ c ∈ s, c.toNat < 128) ∧ t = s.map Char.toLower) ∨ (∃ c ∈ s, Stray c) ∧ ∃ d ∈ t, Stray d := by
  induction h with
  | nil => exact .inl ⟨nofun, rfl⟩
  | @ascii c s t hc _ ih =>
    rcases ih with ⟨hs, rfl⟩ | ⟨⟨d, hd, hstray⟩, e, he, hstray'⟩
    · exact .inl ⟨List.forall_mem_cons.2 ⟨hc, hs⟩, rfl⟩
    · exact .inr ⟨⟨d, List.mem_cons_of_mem _ hd, hstray⟩, e, List.mem_cons_of_mem _ he, hstray'⟩
  | kelvin => exact .inr ⟨⟨_, List.mem_cons_self, by decide⟩, _, List.mem_cons_self, by decide⟩
  | dotted => exact .inr ⟨⟨_, List.mem_cons_self, by decide⟩, _, List.mem_cons_self, by decide⟩
  | @other c form s t hc hne hform =>
    obtain ⟨d, hd⟩ := List.exists_mem_of_ne_nil form hne
    exact .inr ⟨⟨c, List.mem_cons_self, stray_of_not_ascii hc⟩, d, List.mem_append_left _ hd,
      stray_of_not_ascii (hform d hd)⟩

theorem dropMark_map_toLower {s : List Char} (hs : ∀ c ∈ s, c.toNat < 128) :
    dropMark (s.map Char.toLower) = (dropMark s).map Char.toLower := by
  fun_cases dropMark s
  · rfl
  · rfl
  · next hx hX =>
    refine dropMark_of_not_marked fun c' d' rest' h hc' => ?_
    obtain ⟨c, s', rfl, hc, hs'⟩ := List.map_eq_cons_iff.1 h
    obtain ⟨d, rest, rfl, hd, -⟩ := List.map_eq_cons_iff.1 hs'
    subst hc' hd
    obtain rfl : c = '0' :=
      Hex.of_ascii (P := fun c => c.toLower = '0' → c = '0') (by decide) (hs c List.mem_cons_self) hc
    refine Hex.of_ascii (P := fun c => c ≠ 'x' → c ≠ 'X' → c.toLower ≠ 'x' ∧ c.toLower ≠ 'X') (by decide)
      (hs d (by simp)) ?_ ?_
    · rintro rfl
      exact hx rest rfl
    · rintro rfl
      exact hX rest rfl

theorem packed_map_toLower {s : List Char} (hs : ∀ c ∈ s, c.toNat < 128) :
    packed (s.map Char.toLower) = (packed s).map Char.toLower := by
  rw [packed, packed, List.filter_map]
  refine congrArg (List.map Char.toLower) (List.filter_congr fun c hc => ?_)
  exact Hex.of_ascii (P := fun c => (c.toLower != ' ' && c.toLower != ':') = (c != ' ' && c != ':'))
    (by decide) (hs c hc)

theorem read?_of_lowered {s t : List Char} (h : Lowered s t) :
    Hex.read? (packed (dropMark t)) = Hex.read? (packed (dropMark s)) := by
  rcases h.ascii_or_stray with ⟨hs, rfl⟩ | ⟨hs, ht⟩
  · have hdrop : ∀ c ∈ dropMark s, c.toNat < 128 := by
      obtain ⟨mark, -, hmark⟩ := exists_eq_mark_append s
      intro c hc
      refine hs c ?_
      rw [hmark]
      exact List.mem_append_right _ hc
    rw [dropMark_map_toLower hs, packed_map_toLower hdrop,
      Hex.read?_map_toLower fun c hc => hdrop c (mem_packed.1 hc).1]
  · rw [read?_of_stray hs, read?_of_stray ht]

/-! ## Parsing -/

theorem parse_of_written {text : List Char} {bytes : List UInt8} (h : Written text bytes) :
    parse text = if bytes.length = 16 then .ok bytes else .error (.wrongLength bytes.length) := by
  rw [parse, read?_body_eq_some_iff.2 h]
  rfl

theorem parse_of_not_written {text : List Char} (h : ¬ ∃ bytes, Written text bytes) :
    parse text = .error (.notHex text) := by
  have hnone : Hex.read? (body text) = none :=
    Option.eq_none_iff_forall_ne_some.2 fun bytes hb => h ⟨bytes, read?_body_eq_some_iff.1 hb⟩
  rw [parse, hnone]

theorem parse_cases (text : List Char) :
    ((¬ ∃ bytes, Written text bytes) ∧ parse text = .error (.notHex text)) ∨
    (∃ bytes, Written text bytes ∧ bytes.length ≠ 16 ∧ parse text = .error (.wrongLength bytes.length)) ∨
    (∃ bytes, Written text bytes ∧ bytes.length = 16 ∧ parse text = .ok bytes) := by
  by_cases h : ∃ bytes, Written text bytes
  · obtain ⟨bytes, hb⟩ := h
    by_cases hlen : bytes.length = 16
    · exact .inr (.inr ⟨bytes, hb, hlen, by rw [parse_of_written hb, if_pos hlen]⟩)
    · exact .inr (.inl ⟨bytes, hb, hlen, by rw [parse_of_written hb, if_neg hlen]⟩)
  · exact .inl ⟨h, parse_of_not_written h⟩

theorem parse_eq_ok_iff {text : List Char} {salt : List UInt8} :
    parse text = .ok salt ↔ Written text salt ∧ salt.length = 16 := by
  constructor
  · intro h
    rcases parse_cases text with ⟨-, hp⟩ | ⟨bytes, -, -, hp⟩ | ⟨bytes, hb, hlen, hp⟩ <;> rw [hp] at h
    · cases h
    · cases h
    · obtain rfl := Except.ok.inj h
      exact ⟨hb, hlen⟩
  · rintro ⟨hb, hlen⟩
    rw [parse_of_written hb, if_pos hlen]

theorem parse_eq_notHex_iff {text : List Char} :
    parse text = .error (.notHex text) ↔ ¬ ∃ bytes, Written text bytes := by
  refine ⟨?_, parse_of_not_written⟩
  rintro hp ⟨bytes, hb⟩
  rw [parse_of_written hb] at hp
  split at hp <;> cases hp

theorem parse_eq_wrongLength_iff {text : List Char} {n : Nat} :
    parse text = .error (.wrongLength n) ↔ n ≠ 16 ∧ ∃ bytes, Written text bytes ∧ bytes.length = n := by
  constructor
  · intro h
    rcases parse_cases text with ⟨-, hp⟩ | ⟨bytes, hb, hlen, hp⟩ | ⟨bytes, -, -, hp⟩ <;> rw [hp] at h
    · cases h
    · obtain rfl := SaltError.wrongLength.inj (Except.error.inj h)
      exact ⟨hlen, bytes, hb, rfl⟩
    · cases h
  · rintro ⟨hlen, bytes, hb, rfl⟩
    rw [parse_of_written hb, if_neg hlen]

/-- **A salt is accepted just if it is written.** The text of a salt is sixteen bytes in hex, with digits of
either case, with or without a mark in front, with any white space around it all, with spaces and colons
anywhere behind the mark and with other ASCII white space between the pairs of digits there. Every other text
is rejected: for its length if it is another number of bytes written so, and as no hex if it is not. It does
not matter whether the letters are made small before the mark is looked for. -/
theorem parse_accepts_written (text : List Char) :
    (∀ salt, parse text = .ok salt ↔ Written text salt ∧ salt.length = 16) ∧
    ((∃ e, parse text = .error e) ↔ ¬ ∃ salt, Written text salt ∧ salt.length = 16) ∧
    (parse text = .error (.notHex text) ↔ ¬ ∃ bytes, Written text bytes) ∧
    (∀ n, parse text = .error (.wrongLength n) ↔ n ≠ 16 ∧ ∃ bytes, Written text bytes ∧ bytes.length = n) ∧
    (∀ bytes other, Written text bytes → Written text other → bytes = other) ∧
    (∀ small, Lowered (Text.trim text) small →
      Hex.read? (packed (dropMark small)) = Hex.read? (body text)) := by
  refine ⟨fun salt => parse_eq_ok_iff, ?_, parse_eq_notHex_iff, fun n => parse_eq_wrongLength_iff,
    fun bytes other => Written.unique, fun small => read?_of_lowered⟩
  simp only [← parse_eq_ok_iff]
  cases parse text <;> simp

/-- Both cases of digits and a mark in capitals, with white space of every kind where it may stand; then a pair
that is cut in two by a tabulator, a mark that is cut in two, and a Kelvin sign. -/
theorem parse_accepts_written_spaced :
    let text := "\u2003\u001f0X: 0001 0 2:03\t0a0B\r\n0Cfd fE:FFfc:: 10111213 7f\x0b \u00a0".toList
    let salt : List UInt8 := [0, 1, 2, 3, 10, 11, 12, 253, 254, 255, 252, 16, 17, 18, 19, 127]
    Written text salt ∧ parse text = .ok salt ∧
      (¬ ∃ bytes, Written "0x0\t001".toList bytes) ∧ (¬ ∃ bytes, Written "0 x00".toList bytes) ∧
      (¬ ∃ bytes, Written "0x0\u212a".toList bytes) ∧ parse "0x 00:01".toList = .error (.wrongLength 2) := by
  intro text salt
  have hok : parse text = .ok salt := by decide +kernel
  have hshort : Written "0x 00:01".toList [0, 1] := read?_body_eq_some_iff.1 (by decide +kernel)
  obtain ⟨hwritten, -⟩ := parse_accepts_written text
  obtain ⟨-, -, htab, -⟩ := parse_accepts_written "0x0\t001".toList
  obtain ⟨-, -, hcut, -⟩ := parse_accepts_written "0 x00".toList
  obtain ⟨-, -, hkelvin, -⟩ := parse_accepts_written "0x0\u212a".toList
  obtain ⟨-, -, -, hlength, -⟩ := parse_accepts_written "0x 00:01".toList
  refine ⟨((hwritten salt).1 hok).1, hok, htab.1 ?_, hcut.1 ?_, hkelvin.1 ?_,
    (hlength 2).2 ⟨by decide, _, hshort, rfl⟩⟩
  all_goals decide +kernel

end KeyRecovery.Salt
