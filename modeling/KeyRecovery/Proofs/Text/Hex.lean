import KeyRecovery.Text.Hex

/-!
# What hex text looks like

* `Hex.lowercase` : the sixteen digits;
* `Hex.dump_cons_sep`, `Hex.mem_dump`, `Hex.dump_injective` : a dump byte by byte, its characters, and that
  dumps of one length tell their bytes apart;
* `Hex.length_dump`, `Hex.mem_lowercase_of_dump` : bytes without a separator are two digits each, and
  nothing but digits;
* `Hex.Denotes`, `Hex.digit?_eq_some_iff` : what a digit stands for, small or capital;
* `Hex.Pairs`, `Hex.read?_eq_some_iff` : the texts that are read, and as which bytes;
* `Hex.pairs_dump` : a dump without a separator is read as its bytes;
* `Hex.recase`, `Hex.map_toLower_recase` : a text with some letters made capitals, and made small again;
* `Hex.read?_append_of_gaps`, `Hex.read?_append_gaps` : white space at either end is not seen.
-/

namespace KeyRecovery.Hex

def lowercase : List Char := "0123456789abcdef".toList

theorem digitChar_mem_lowercase : ∀ n < 16, Nat.digitChar n ∈ lowercase := by decide

theorem mem_lowercase_of_byte {b : UInt8} {c : Char} (h : c ∈ byte b) : c ∈ lowercase := by
  have hb : b.toNat < 256 := b.toNat_lt
  simp only [byte, List.mem_cons, List.not_mem_nil, or_false] at h
  rcases h with rfl | rfl
  · exact digitChar_mem_lowercase _ (by omega)
  · exact digitChar_mem_lowercase _ (by omega)

theorem dump_cons_sep (sep : List Char) (b : UInt8) (bytes : List UInt8) :
    dump sep (b :: bytes) = byte b ++ (if bytes = [] then [] else sep) ++ dump sep bytes := by
  cases bytes with
  | nil => simp [dump, List.intercalate]
  | cons a bytes => simp [dump, List.intercalate]

theorem dump_cons (b : UInt8) (bytes : List UInt8) : dump [] (b :: bytes) = byte b ++ dump [] bytes := by
  rw [dump_cons_sep, ite_self, List.append_nil]

theorem mem_dump {sep : List Char} {bytes : List UInt8} {c : Char} (h : c ∈ dump sep bytes) :
    c ∈ lowercase ∨ c ∈ sep := by
  induction bytes with
  | nil => cases h
  | cons b bytes ih =>
    rw [dump_cons_sep, List.mem_append, List.mem_append] at h
    rcases h with (hb | hsep) | hrest
    · exact .inl (mem_lowercase_of_byte hb)
    · split at hsep
      · cases hsep
      · exact .inr hsep
    · exact ih hrest

theorem length_dump (bytes : List UInt8) : (dump [] bytes).length = 2 * bytes.length := by
  induction bytes with
  | nil => rfl
  | cons b bytes ih =>
    rw [dump_cons, List.length_append, ih, List.length_cons, Nat.mul_succ, Nat.add_comm]
    rfl

theorem mem_lowercase_of_dump {bytes : List UInt8} {c : Char} (h : c ∈ dump [] bytes) :
    c ∈ lowercase :=
  (mem_dump h).resolve_right List.not_mem_nil

/-! ## Digits of either case -/

/-- The hex digits, with capitals. -/
def uppercase : List Char := "0123456789ABCDEF".toList

def Denotes (c : Char) (v : Nat) : Prop := lowercase[v]? = some c ∨ uppercase[v]? = some c

instance (c : Char) (v : Nat) : Decidable (Denotes c v) := inferInstanceAs (Decidable (_ ∨ _))

/-- What all ASCII characters have in common is found by going through them. -/
theorem of_ascii {P : Char → Prop} (h : ∀ n < 128, P (Char.ofNat n)) {c : Char} (hc : c.toNat < 128) :
    P c := by
  have hn := h c.toNat hc
  rwa [Char.ofNat_toNat] at hn

theorem ascii_of_digit? {c : Char} {v : Nat} (h : digit? c = some v) : c.toNat < 128 := by
  have hle : ∀ {d : Char}, d.toNat < 128 → c ≤ d → c.toNat < 128 := fun hd hcd => Nat.lt_of_le_of_lt hcd hd
  simp only [digit?] at h
  split at h
  · next hc => exact hle (by decide) hc.2
  split at h
  · next hc => exact hle (by decide) hc.2
  split at h
  · next hc => exact hle (by decide) hc.2
  cases h

theorem digit?_eq_some_iff {c : Char} {v : Nat} : digit? c = some v ↔ Denotes c v := by
  constructor
  · intro h
    exact of_ascii (P := fun c => ∀ v ∈ digit? c, Denotes c v) (by decide) (ascii_of_digit? h) v h
  · have hsmall : ∀ v < 16, lowercase[v]?.bind digit? = some v := by decide
    have hcapital : ∀ v < 16, uppercase[v]?.bind digit? = some v := by decide
    rintro (h | h)
    · have hv := hsmall v (List.getElem?_eq_some_iff.1 h).1
      rwa [h] at hv
    · have hv := hcapital v (List.getElem?_eq_some_iff.1 h).1
      rwa [h] at hv

theorem Denotes.ascii {c : Char} {v : Nat} (h : Denotes c v) : c.toNat < 128 :=
  ascii_of_digit? (digit?_eq_some_iff.2 h)

theorem Denotes.lt {c : Char} {v : Nat} (h : Denotes c v) : v < 16 := by
  rcases h with h | h
  all_goals exact (List.getElem?_eq_some_iff.1 h).1

/-! ## Pairs of digits -/

/-- The white space that may stand between pairs of digits. -/
def gaps : List Char := ['\t', '\n', '\x0b', '\x0c', '\r']

theorem isAsciiGap_iff {c : Char} : Text.isAsciiGap c = true ↔ c = ' ' ∨ c ∈ gaps := by
  constructor
  · intro h
    have hc : c.toNat < 128 := by
      simp only [Text.isAsciiGap, Bool.or_eq_true, Bool.and_eq_true, decide_eq_true_eq, beq_iff_eq] at h
      omega
    exact of_ascii (P := fun c => Text.isAsciiGap c = true → c = ' ' ∨ c ∈ gaps) (by decide) hc h
  · have hall : (' ' :: gaps).all Text.isAsciiGap = true := by decide
    exact fun h => List.all_eq_true.1 hall c (List.mem_cons.2 h)

theorem mem_gaps {c : Char} (h : Text.isAsciiGap c = true) (hc : c ≠ ' ') : c ∈ gaps :=
  (isAsciiGap_iff.1 h).resolve_left hc

theorem Denotes.isAsciiGap_eq_false {c : Char} {v : Nat} (h : Denotes c v) : Text.isAsciiGap c = false := by
  refine of_ascii (P := fun c => digit? c ≠ none → Text.isAsciiGap c = false) (by decide) h.ascii ?_
  rw [digit?_eq_some_iff.2 h]
  nofun

/-- A text is pairs of neighbouring digits, one for each byte, with gaps before, between and after them. -/
inductive Pairs : List Char → List UInt8 → Prop
  | nil : Pairs [] []
  | gap {c : Char} {s : List Char} {bytes : List UInt8} : c ∈ gaps → Pairs s bytes → Pairs (c :: s) bytes
  | pair {c d : Char} {high low : Nat} {s : List Char} {b : UInt8} {bytes : List UInt8} :
      Denotes c high → Denotes d low → b.toNat = 16 * high + low → Pairs s bytes →
        Pairs (c :: d :: s) (b :: bytes)

theorem Pairs.mem {s : List Char} {bytes : List UInt8} (h : Pairs s bytes) :
    ∀ c ∈ s, (∃ v, Denotes c v) ∨ c ∈ gaps := by
  induction h with
  | nil => nofun
  | gap hgap _ ih => exact List.forall_mem_cons.2 ⟨.inr hgap, ih⟩
  | pair hhigh hlow _ _ ih =>
    exact List.forall_mem_cons.2 ⟨.inl ⟨_, hhigh⟩, List.forall_mem_cons.2 ⟨.inl ⟨_, hlow⟩, ih⟩⟩

theorem pair?_eq_some_iff {c d : Char} {b : UInt8} :
    pair? c d = some b ↔ ∃ high low, Denotes c high ∧ Denotes d low ∧ b.toNat = 16 * high + low := by
  constructor
  · intro h
    simp only [pair?] at h
    split at h
    · next high low hc hd =>
      obtain rfl := Option.some.inj h
      have hc' := digit?_eq_some_iff.1 hc
      have hd' := digit?_eq_some_iff.1 hd
      refine ⟨high, low, hc', hd', UInt8.toNat_ofNat_of_lt' ?_⟩
      have := hc'.lt
      have := hd'.lt
      simp only [UInt8.size]
      omega
    · cases h
  · rintro ⟨high, low, hc, hd, hb⟩
    simp only [pair?, digit?_eq_some_iff.2 hc, digit?_eq_some_iff.2 hd, ← hb, UInt8.ofNat_toNat]

theorem pair?_of_gap (c : Char) {d : Char} (h : Text.isAsciiGap d = true) : pair? c d = none := by
  refine Option.eq_none_iff_forall_ne_some.2 fun b hb => ?_
  obtain ⟨high, low, -, hd, -⟩ := pair?_eq_some_iff.1 hb
  rw [hd.isAsciiGap_eq_false] at h
  cases h

theorem read?_cons_of_gap {c : Char} (h : Text.isAsciiGap c = true) (s : List Char) :
    read? (c :: s) = read? s := by
  cases s with
  | nil => rw [read?, read?, if_pos h]
  | cons d s => rw [read?, if_pos h]

theorem read?_cons_cons {c : Char} (h : Text.isAsciiGap c = false) (d : Char) (s : List Char) :
    read? (c :: d :: s) = (pair? c d).bind fun b => (read? s).map (b :: ·) := by
  rw [read?, h]
  cases pair? c d <;> rfl

theorem read?_of_pairs {s : List Char} {bytes : List UInt8} (h : Pairs s bytes) : read? s = some bytes := by
  induction h with
  | nil => rfl
  | gap hc _ ih => rw [read?_cons_of_gap (isAsciiGap_iff.2 (.inr hc)), ih]
  | pair hc hd hb _ ih =>
    rw [read?_cons_cons hc.isAsciiGap_eq_false, pair?_eq_some_iff.2 ⟨_, _, hc, hd, hb⟩, Option.bind_some, ih,
      Option.map_some]

theorem pairs_of_read? {s : List Char} (hs : ' ' ∉ s) {bytes : List UInt8} (h : read? s = some bytes) :
    Pairs s bytes := by
  induction s using read?.induct generalizing bytes with
  | case1 =>
    obtain rfl := Option.some.inj h
    exact .nil
  | case2 c hc =>
    rw [read?_cons_of_gap hc] at h
    obtain rfl := Option.some.inj h
    exact .gap (mem_gaps hc (List.ne_of_not_mem_cons hs).symm) .nil
  | case3 c hc =>
    rw [read?, if_neg hc] at h
    cases h
  | case4 c d rest hc ih =>
    rw [read?_cons_of_gap hc] at h
    exact .gap (mem_gaps hc (List.ne_of_not_mem_cons hs).symm) (ih (List.not_mem_of_not_mem_cons hs) h)
  | case5 c d rest hc b hb ih =>
    rw [read?_cons_cons (Bool.eq_false_iff.2 hc), hb, Option.bind_some, Option.map_eq_some_iff] at h
    obtain ⟨bytes, hrest, rfl⟩ := h
    obtain ⟨high, low, hhigh, hlow, hbyte⟩ := pair?_eq_some_iff.1 hb
    exact .pair hhigh hlow hbyte (ih (fun hm => hs (by simp [hm])) hrest)
  | case6 c d rest hc hb =>
    rw [read?_cons_cons (Bool.eq_false_iff.2 hc), hb] at h
    cases h

theorem read?_eq_some_iff {s : List Char} (hs : ' ' ∉ s) {bytes : List UInt8} :
    read? s = some bytes ↔ Pairs s bytes :=
  ⟨pairs_of_read? hs, read?_of_pairs⟩

/-- What is read depends on the values of the digits and on where the gaps are. -/
theorem read?_map {f : Char → Char} {s : List Char} (hdigit : ∀ c ∈ s, digit? (f c) = digit? c)
    (hgap : ∀ c ∈ s, Text.isAsciiGap (f c) = Text.isAsciiGap c) : read? (s.map f) = read? s := by
  induction s using read?.induct with
  | case1 => rfl
  | case2 c hc | case3 c hc =>
    rw [List.map_cons, List.map_nil, read?, read?, hgap c List.mem_cons_self]
  | case4 c d rest hc ih =>
    have hfc : Text.isAsciiGap (f c) = true := by rw [hgap c List.mem_cons_self, hc]
    rw [List.map_cons, read?_cons_of_gap hfc, read?_cons_of_gap hc]
    exact ih (fun e he => hdigit e (List.mem_cons_of_mem _ he)) fun e he => hgap e (List.mem_cons_of_mem _ he)
  | case5 c d rest hc b hb ih =>
    have hc' := Bool.eq_false_iff.2 hc
    have hfc : Text.isAsciiGap (f c) = false := by rw [hgap c List.mem_cons_self, hc']
    have hpair : pair? (f c) (f d) = pair? c d := by rw [pair?, hdigit c (by simp), hdigit d (by simp), ← pair?]
    rw [List.map_cons, List.map_cons, read?_cons_cons hfc, read?_cons_cons hc', hpair,
      ih (fun e he => hdigit e (by simp [he])) fun e he => hgap e (by simp [he])]
  | case6 c d rest hc hb =>
    have hc' := Bool.eq_false_iff.2 hc
    have hfc : Text.isAsciiGap (f c) = false := by rw [hgap c List.mem_cons_self, hc']
    have hpair : pair? (f c) (f d) = pair? c d := by rw [pair?, hdigit c (by simp), hdigit d (by simp), ← pair?]
    rw [List.map_cons, List.map_cons, read?_cons_cons hfc, read?_cons_cons hc', hpair, hb]
    rfl

theorem read?_map_toLower {s : List Char} (hs : ∀ c ∈ s, c.toNat < 128) :
    read? (s.map Char.toLower) = read? s := by
  refine read?_map (fun c hc => ?_) fun c hc => ?_
  · exact of_ascii (P := fun c => digit? c.toLower = digit? c) (by decide) (hs c hc)
  · exact of_ascii (P := fun c => Text.isAsciiGap c.toLower = Text.isAsciiGap c) (by decide) (hs c hc)

/-! ## Dumps are read back -/

theorem denotes_digitChar : ∀ n < 16, Denotes (Nat.digitChar n) n := by decide

theorem pair?_byte (b : UInt8) :
    pair? (Nat.digitChar (b.toNat / 16)) (Nat.digitChar (b.toNat % 16)) = some b := by
  have hb : b.toNat < 256 := b.toNat_lt
  exact pair?_eq_some_iff.2 ⟨_, _, denotes_digitChar _ (by omega), denotes_digitChar _ (by omega), by omega⟩

theorem byte_injective {a b : UInt8} (h : byte a = byte b) : a = b := by
  simp only [byte, List.cons.injEq, and_true] at h
  have hb := pair?_byte b
  rw [← h.1, ← h.2, pair?_byte] at hb
  exact Option.some.inj hb

theorem dump_injective (sep : List Char) {bytes other : List UInt8} (hlen : bytes.length = other.length)
    (h : dump sep bytes = dump sep other) : bytes = other := by
  induction bytes generalizing other with
  | nil => exact (List.length_eq_zero_iff.1 hlen.symm).symm
  | cons a bytes ih =>
    cases other with
    | nil => cases hlen
    | cons b other =>
      have hlen := Nat.succ.inj hlen
      have hempty : bytes = [] ↔ other = [] := by
        rw [← List.length_eq_zero_iff, ← List.length_eq_zero_iff, hlen]
      simp only [dump_cons_sep, hempty, List.append_assoc] at h
      obtain ⟨hbyte, hrest⟩ := List.append_inj h rfl
      rw [byte_injective hbyte, ih hlen (List.append_cancel_left hrest)]

theorem pairs_dump (bytes : List UInt8) : Pairs (dump [] bytes) bytes := by
  induction bytes with
  | nil => exact .nil
  | cons b bytes ih =>
    obtain ⟨high, low, hhigh, hlow, hb⟩ := pair?_eq_some_iff.1 (pair?_byte b)
    rw [dump_cons]
    exact .pair hhigh hlow hb ih

/-! ## Capitals -/

def recase (upper : Nat → Bool) (s : List Char) : List Char :=
  s.mapIdx fun i c => if upper i then c.toUpper else c

theorem mem_recase {upper : Nat → Bool} {s : List Char} {c : Char} (h : c ∈ recase upper s) :
    ∃ d ∈ s, c = d ∨ c = d.toUpper := by
  obtain ⟨i, hi, rfl⟩ := List.mem_mapIdx.1 h
  refine ⟨s[i], List.getElem_mem hi, ?_⟩
  split
  · exact .inr rfl
  · exact .inl rfl

theorem recase_none (s : List Char) : recase (fun _ => false) s = s :=
  List.ext_getElem (by simp [recase]) (by simp [recase])

theorem map_toLower_recase (upper : Nat → Bool) {s : List Char}
    (h : ∀ c ∈ s, c.toLower = c ∧ c.toUpper.toLower = c) : (recase upper s).map Char.toLower = s := by
  apply List.ext_getElem (by simp [recase])
  intro i _ hi
  obtain ⟨hlower, hupper⟩ := h s[i] (List.getElem_mem hi)
  simp only [recase, List.getElem_map, List.getElem_mapIdx]
  split
  · exact hupper
  · exact hlower

/-! ## White space at the ends -/

theorem read?_append_of_gaps {v : List Char} (h : ∀ c ∈ v, Text.isAsciiGap c = true) (s : List Char) :
    read? (v ++ s) = read? s := by
  induction v with
  | nil => rfl
  | cons c v ih =>
    rw [List.cons_append, read?_cons_of_gap (h c List.mem_cons_self),
      ih fun d hd => h d (List.mem_cons_of_mem _ hd)]

theorem read?_append_gaps (s : List Char) {v : List Char} (h : ∀ c ∈ v, Text.isAsciiGap c = true) :
    read? (s ++ v) = read? s := by
  have hv : read? v = some [] := by
    rw [← List.append_nil v, read?_append_of_gaps h]
    rfl
  induction s using read?.induct with
  | case1 => exact hv
  | case2 c hc => rw [List.singleton_append, read?_cons_of_gap hc, read?_cons_of_gap hc, hv, read?]
  | case3 c hc =>
    rw [List.singleton_append, read?, if_neg hc]
    cases v with
    | nil => rw [read?, if_neg hc]
    | cons d v =>
      rw [read?_cons_cons (Bool.eq_false_iff.2 hc), pair?_of_gap c (h d List.mem_cons_self)]
      rfl
  | case4 c d rest hc ih => rw [List.cons_append, read?_cons_of_gap hc, read?_cons_of_gap hc, ih]
  | case5 c d rest hc b hb ih =>
    rw [List.cons_append, List.cons_append, read?_cons_cons (Bool.eq_false_iff.2 hc),
      read?_cons_cons (Bool.eq_false_iff.2 hc), ih]
  | case6 c d rest hc hb =>
    rw [List.cons_append, List.cons_append, read?_cons_cons (Bool.eq_false_iff.2 hc),
      read?_cons_cons (Bool.eq_false_iff.2 hc), hb]
    rfl

end KeyRecovery.Hex
