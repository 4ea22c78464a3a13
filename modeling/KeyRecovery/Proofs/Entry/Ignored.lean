import KeyRecovery.Proofs.Entry.Dialogue

/-!
# Ignored characters

A character that is neither a digit nor erases nor aborts does change a machine: it takes back the last
rejection, and that a block was just committed. Nothing that can be seen of a dialogue tells.

* `Stroke.isIgnored`, `Stroke.heard` : the ignored characters, and what is left of a text without them;
* `Machine.Alike m n` : two machines that take strokes, with the same blocks and the same digits;
* `Alike.ignored`, `Alike.stroke_eq` : an ignored character keeps this on one side, and any other character
  makes the two equal;
* `talk_heard` : a dialogue is the same without the ignored characters;
* `decides_end_iff` : and it gets to the end of its characters or not, as it does without them;
* `run_eq_of_heard_eq` : so are dialogues on texts that differ in ignored characters alone.
-/

namespace KeyRecovery

open Source (Delivers)
open Machine (start)

namespace Stroke

/-- Whether a character neither is a digit nor erases nor aborts. -/
def isIgnored (c : Char) : Bool := !c.isDigit && !erasers.contains c && !aborters.contains c

def heard (cs : List Char) : List Char := cs.filter fun c => !isIgnored c

theorem isIgnored_iff {c : Char} :
    isIgnored c = true ↔ c.isDigit = false ∧ c ∉ erasers ∧ c ∉ aborters := by
  simp [isIgnored, and_assoc]

theorem ofChar_of_isIgnored {c : Char} (h : isIgnored c = true) : ofChar c = .other :=
  ofChar_of_other (isIgnored_iff.1 h).1 (isIgnored_iff.1 h).2.1

/-- What neither is ignored nor aborts means something to a machine. -/
theorem ofChar_ne_other {c : Char} (h : isIgnored c = false) (ha : c ∉ aborters) :
    ofChar c ≠ .other := by
  by_cases he : c ∈ erasers
  · rw [ofChar_of_mem he]
    nofun
  · cases hd : c.isDigit with
    | true =>
      rw [ofChar_of_isDigit hd]
      nofun
    | false => exact absurd (isIgnored_iff.2 ⟨hd, he, ha⟩) (by simp [h])

theorem heard_of_isIgnored {c : Char} (h : isIgnored c = true) (cs : List Char) :
    heard (c :: cs) = heard cs := by
  simp [heard, h]

theorem heard_of_not_isIgnored {c : Char} (h : isIgnored c = false) (cs : List Char) :
    heard (c :: cs) = c :: heard cs := by
  simp [heard, h]

end Stroke

namespace Machine

/-! ## Machines that differ in nothing that is shown -/

/-- Two machines that take strokes, with the same blocks and digits. Their stages and their last
rejections may differ. -/
structure Alike (m n : Machine) : Prop where
  blocks : m.blocks = n.blocks
  digits : m.digits = n.digits
  left : m.done = false
  right : n.done = false

theorem Alike.refl {m : Machine} (h : m.done = false) : Alike m m := ⟨rfl, rfl, h, h⟩

namespace Alike

variable {m n : Machine}

theorem place (h : Alike m n) : m.place = n.place := by
  rw [Machine.place, Machine.place, h.blocks]

theorem ignored (h : Alike m n) {c : Char} (hc : Stroke.isIgnored c = true) :
    Alike (m.stroke c) n := by
  rw [stroke_eq h.left, Stroke.ofChar_of_isIgnored hc]
  exact ⟨h.blocks, h.digits, done_press_other h.left, h.right⟩

/-- A digit and an erasure look at blocks and digits alone, and set the rest anew. -/
theorem press_eq (h : Alike m n) {s : Stroke} (hs : s ≠ .other) : m.press s = n.press s := by
  obtain ⟨bs, ds, stage, last⟩ := m
  obtain ⟨bs', ds', stage', last'⟩ := n
  obtain ⟨hb, hd, -, -⟩ := h
  simp only at hb hd
  subst hb hd
  cases s with
  | other => exact absurd rfl hs
  | digit c => rfl
  | erase =>
    simp only [press, eraseDigit]
    split
    · split <;> rfl
    · rfl

theorem stroke_eq (h : Alike m n) {c : Char} (hc : Stroke.isIgnored c = false)
    (ha : c ∉ Stroke.aborters) : m.stroke c = n.stroke c := by
  rw [Machine.stroke_eq h.left, Machine.stroke_eq h.right, h.press_eq (Stroke.ofChar_ne_other hc ha)]

theorem redraw_eq (h : Alike m n) (prompt : List Char) (c : Char) (after : Machine) :
    Dialogue.redraw prompt c m after = Dialogue.redraw prompt c n after := by
  have hu : Dialogue.unchanged m after = Dialogue.unchanged n after := by
    simp only [Dialogue.unchanged, cursor, h.blocks, h.digits]
  rw [Dialogue.redraw, Dialogue.redraw, hu]

end Alike

end Machine

namespace Dialogue

/-! ## The loop -/

theorem talk_heard {σ τ : Type} [Source σ] [Source τ] (prompt : List Char) {cs : List Char}
    {fault : Option ReadError} {m n : Machine} {s : σ} {t : τ} (h : m.Alike n)
    (hs : Delivers s cs fault) (ht : Delivers t (Stroke.heard cs) fault) :
    (talk prompt m s).result = (talk prompt n t).result ∧
      (talk prompt m s).events = (talk prompt n t).events := by
  induction cs generalizing m n s t with
  | nil =>
    cases fault with
    | none =>
      rw [talk_ended prompt m s hs.last, talk_ended prompt n t ht.last, h.place]
      exact ⟨rfl, rfl⟩
    | some e =>
      rw [talk_failed prompt m s hs.last, talk_failed prompt n t ht.last]
      exact ⟨rfl, rfl⟩
  | cons c cs ih =>
    have hr := hs.chars 0 c rfl
    cases hc : Stroke.isIgnored c with
    | true =>
      have ha := (Stroke.isIgnored_iff.1 hc).2.2
      have hp : (m.stroke c).password? = none :=
        Machine.password?_eq_none_iff.2 (Machine.done_eq_false_iff.1 (h.ignored hc).left).1
      rw [Stroke.heard_of_isIgnored hc] at ht
      have hdrawn : redraw prompt c m (m.stroke c) = [] := by
        rw [Machine.stroke_eq h.left, Stroke.ofChar_of_isIgnored hc, redraw_other]
      rw [talk_continue prompt m s hr ha h.left hp, hdrawn]
      exact ih (h.ignored hc) hs.tail ht
    | false =>
      rw [Stroke.heard_of_not_isIgnored hc] at ht
      have hr' := ht.chars 0 c rfl
      by_cases ha : c ∈ Stroke.aborters
      · rw [talk_abort prompt m s hr ha, talk_abort prompt n t hr' ha, h.place]
        exact ⟨rfl, rfl⟩
      · have hsame := h.stroke_eq hc ha
        have hdrawn := h.redraw_eq prompt c (n.stroke c)
        cases hp : (n.stroke c).password? with
        | some p =>
          rw [talk_complete prompt m s hr ha h.left (hsame ▸ hp),
            talk_complete prompt n t hr' ha h.right hp, hsame]
          exact ⟨rfl, hdrawn⟩
        | none =>
          have hd := (Machine.done_stroke h.right c).2 (Machine.password?_eq_none_iff.1 hp)
          obtain ⟨hresult, hevents⟩ := ih (Machine.Alike.refl hd) hs.tail ht.tail
          rw [talk_continue prompt m s hr ha h.left (hsame ▸ hp),
            talk_continue prompt n t hr' ha h.right hp, hsame]
          exact ⟨hresult, by simp only [hdrawn, hevents]⟩

/-! ## Whole dialogues -/

/-- Every text can be delivered, with every end. -/
theorem exists_delivers (cs : List Char) (fault : Option ReadError) :
    ∃ t : Interrupted Script, Delivers t cs fault := by
  cases fault with
  | none =>
    have h := Interrupted.delivers (Script.delivers cs) (cs.length + 1) (.stream "")
    rw [if_neg (Nat.not_succ_le_self _), List.take_of_length_le (Nat.le_succ _)] at h
    exact ⟨_, h⟩
  | some e =>
    have h := Interrupted.delivers (Script.delivers cs) cs.length e
    rw [if_pos (Nat.le_refl _), List.take_length] at h
    exact ⟨_, h⟩

section Runs

variable {σ τ : Type} [Source σ] [Source τ] {cs ds : List Char} {fault : Option ReadError} {s : σ} {t : τ}

theorem run_alike (prompt : List Char) (h : Stroke.heard cs = Stroke.heard ds) (hs : Delivers s cs fault)
    (ht : Delivers t ds fault) :
    (run prompt s).result = (run prompt t).result ∧ (run prompt s).events = (run prompt t).events := by
  obtain ⟨u, hu⟩ := exists_delivers (Stroke.heard cs) fault
  have hstart : Machine.start.Alike Machine.start := Machine.Alike.refl rfl
  obtain ⟨hrs, hes⟩ := talk_heard prompt hstart hs hu
  obtain ⟨hrt, het⟩ := talk_heard prompt hstart ht (h ▸ hu)
  exact ⟨hrs.trans hrt.symm, by simp only [run, hes, het]⟩

/-- A failing read behind the last character shows whether a dialogue gets there. -/
theorem decides_end_iff {d e : Nat} (h : Stroke.heard cs = Stroke.heard ds) (hd : Decides start cs d)
    (he : Decides start ds e) : d = cs.length ↔ e = ds.length := by
  obtain ⟨u, hu⟩ := exists_delivers cs (some (.stream ""))
  obtain ⟨v, hv⟩ := exists_delivers ds (some (.stream ""))
  obtain ⟨d', hlaw⟩ := exists_lawful standardPrompt hu
  obtain ⟨e', hlaw'⟩ := exists_lawful standardPrompt hv
  obtain rfl := hd.unique hlaw.decides
  obtain rfl := he.unique hlaw'.decides
  rw [← hlaw.ending.eq_read_iff, ← hlaw'.ending.eq_read_iff, (run_alike standardPrompt h hu hv).1]

end Runs

/-- **Ignored characters are invisible.** Two sources whose texts differ in ignored characters alone, and
that end in the same way, have dialogues in which reading ends alike, with a password or a failure with its
place, and with the same events: all that is written, and all records, in the same order. What the dialogues
come to is the same as well if closing the sources answers the same; so it is on two texts, however they are cut,
on two pipes, and on two terminals in raw mode. -/
theorem run_eq_of_heard_eq (prompt : List Char) {cs ds : List Char}
    (h : Stroke.heard cs = Stroke.heard ds) :
    (∀ {σ τ : Type} [Source σ] [Source τ] {fault : Option ReadError} {s : σ} {t : τ},
      Delivers s cs fault → Delivers t ds fault →
        (run prompt s).result = (run prompt t).result ∧
        output (run prompt s).events = output (run prompt t).events ∧
        (∀ threshold, records threshold (run prompt s).events = records threshold (run prompt t).events) ∧
        (run prompt s).events = (run prompt t).events ∧
        ((run prompt s).closing = (run prompt t).closing →
          (run prompt s).outcome = (run prompt t).outcome)) ∧
    (∀ texts texts', texts.flatten = cs → texts'.flatten = ds →
      (run prompt (Script.ofTexts texts)).outcome = (run prompt (Script.ofTexts texts')).outcome) ∧
    ∀ (α : Type) (t u : Terminal α) bytes bytes', t.Offers bytes → u.Offers bytes' →
      t.saved.isSome = u.saved.isSome → Terminal.latin bytes = cs → Terminal.latin bytes' = ds →
        (run prompt t).outcome = (run prompt u).outcome := by
  refine ⟨fun hs ht => ?_, fun texts texts' hcs hds => ?_, fun α t u bytes bytes' ht hu hsaved hcs hds => ?_⟩
  · obtain ⟨hresult, hevents⟩ := run_alike prompt h hs ht
    exact ⟨hresult, by rw [hevents], fun _ => by rw [hevents], hevents,
      fun hc => by rw [Run.outcome, Run.outcome, hc, hresult]⟩
  · subst hcs hds
    obtain ⟨d, hlaw⟩ := exists_lawful prompt (Script.delivers texts.flatten)
    obtain ⟨e, hlaw'⟩ := exists_lawful prompt (Script.delivers texts'.flatten)
    rw [Script.ofTexts, Script.ofTexts, hlaw.closed (congrArg Prod.fst (Script.close_after _ _)),
      hlaw'.closed (congrArg Prod.fst (Script.close_after _ _))]
    exact (run_alike prompt h (Script.delivers _) (Script.delivers _)).1
  · subst hcs hds
    obtain ⟨d, hlaw⟩ := exists_lawful prompt ht.delivers
    obtain ⟨e, hlaw'⟩ := exists_lawful prompt hu.delivers
    have hend := decides_end_iff h hlaw.decides hlaw'.decides
    simp only [Terminal.latin, List.length_map] at hend
    rw [hlaw.outcome_terminal ht, hlaw'.outcome_terminal hu, hsaved, (run_alike prompt h ht.delivers hu.delivers).1]
    simp only [hend]

/-- A good block, a bad one and an abort, read from a text with hyphens, and typed on a terminal with other
keys in between. -/
theorem run_eq_of_heard_eq_typed :
    let cs := "000011-000012-\x04".toList
    let ds := "é0000\x1b11 00 0\t012\x04".toList
    let bytes := ds.map fun c => c.toNat.toUInt8
    let opened := (Terminal.on (.idle .terminal Mode.cooked)).opened
    let t : Terminal Mode := { opened with device := opened.device.receive bytes }
    let r := run "> ".toList t
    Stroke.heard cs = Stroke.heard ds ∧ Delivers t ds none ∧ r.outcome = .error (.ended 2) ∧
      output r.events = ("> > 0> 00> 000> 0000> 00001> 000011-> 000011-0> 000011-00> 000011-000" ++
        "> 000011-0000> 000011-00001\r\nInvalid block.\r\n> 000011-").toList ∧
      records 40 r.events = [rejection ⟨.notMultiple, 2, "000012".toList⟩] := by
  intro cs ds bytes opened t r
  have hlatin : Terminal.latin bytes = ds := by decide +kernel
  have hheard : Stroke.heard cs = Stroke.heard ds := by decide
  have ht : Delivers t ds none := hlatin ▸ (Terminal.offers_raw Mode.cooked bytes).delivers
  obtain ⟨hsources, -, -⟩ := run_eq_of_heard_eq "> ".toList hheard
  obtain ⟨hresult, houtput, hrecords, -, -⟩ := hsources (Script.delivers cs) ht
  obtain ⟨d, hlaw⟩ := exists_lawful "> ".toList (Script.delivers cs)
  obtain rfl : d = 14 := hlaw.decides.unique (by decide +kernel)
  obtain ⟨e, hterminal⟩ := exists_lawful "> ".toList ht
  obtain rfl : e = 17 := hterminal.decides.unique (by decide +kernel)
  refine ⟨hheard, ht, ?_, ?_, ?_⟩
  · rw [hterminal.closed ((Terminal.offers_raw Mode.cooked bytes).close_after 18).2.2, ← hresult,
      hlaw.ending.eq_ended (c := '\x04') rfl (by decide),
      show (start.typed (cs.take 14)).blocks.length = 1 by decide +kernel]
  · rw [← houtput, hlaw.seen]
    decide +kernel
  · rw [← hrecords, hlaw.records]
    decide +kernel

end Dialogue

end KeyRecovery
