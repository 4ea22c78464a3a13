import KeyRecovery.Proofs.Entry.Shown

/-!
# The law of a dialogue

What a dialogue reads, answers, shows and logs, on every source and however reading it ends:

* `Event.isNotice` : what is not a drawn line, namely the records and the two notices;
* `filter_redraw`, `filter_drawn` : the notices among the events of one stroke, and of typed characters;
* `records_drawn` : the records among them;
* `Ending.eq_ok`, `Ending.farewell_eq` : there is a password, and a farewell, just when it was completed;
* `Lawful prompt cs fault s d r` : what is to hold of the run `r` on source `s` that reading `d` decides;
* `run_law` : it holds, on every source; `run_hung_up` : what hides an ending, if the source cannot be closed.
-/

namespace KeyRecovery.Dialogue

open Source (Delivers afterReads)
open Machine (start)

/-! ## Notices -/

/-- The two notices: about a rejected block, and about a complete password. -/
def invalidNotice : Event := .write "\r\nInvalid block.\r\n".toList

def validNotice : Event := .write "\r\nValid password, continuing.\r\n".toList

def Event.isNotice (e : Event) : Bool :=
  match e with
  | .log _ => true
  | .write _ => e == invalidNotice || e == validNotice

/-- What is logged and said of a rejected block. -/
def refusal (e : BlockError) : List Event := [.log (rejection e), invalidNotice]

/-- The notices end with a line feed. -/
theorem Event.isNotice_write {text : List Char} (h : text.getLast? ≠ some '\n') :
    (Event.write text).isNotice = false := by
  have hne (notice : List Char) (hn : notice.getLast? = some '\n') : text ≠ notice := fun e =>
    h (e ▸ hn)
  have hi := hne "\r\nInvalid block.\r\n".toList (by decide)
  have hv := hne "\r\nValid password, continuing.\r\n".toList (by decide)
  simp only [isNotice, invalidNotice, validNotice, Bool.or_eq_false_iff, beq_eq_false_iff_ne, ne_eq,
    Event.write.injEq]
  exact ⟨hi, hv⟩

/-- The events of a stroke that leaves something to draw. -/
theorem redraw_changed {prompt : List Char} {c : Char} {m n : Machine} (h : unchanged m n = false) :
    redraw prompt c m n =
      (if c ∈ Stroke.erasers then [.write (n.line prompt ++ [' ', ' '])] else []) ++
        n.lastError.toList.flatMap refusal ++ [.write (n.line prompt)] ++
        if n.stage = .allBlocksValid then [validNotice] else [] := by
  rw [redraw, h]
  simp only [List.contains_iff_mem, Bool.false_eq_true, if_false]
  cases n.lastError <;> rfl

theorem redraw_unchanged {prompt : List Char} {c : Char} {m n : Machine} (h : unchanged m n = true) :
    redraw prompt c m n = [] := by
  rw [redraw, if_pos h]

section Stroke

variable {prompt : List Char} {m : Machine}

theorem lastError_of_unchanged {n : Machine} (h : unchanged m n = true) : n.lastError = none := by
  simp only [unchanged, Bool.and_eq_true, Option.isNone_iff_eq_none] at h
  exact h.2

/-- The last stroke completes a block, so it is drawn. -/
theorem stage_of_unchanged (h : m.Sound) (hd : m.done = false) {c : Char}
    (hu : unchanged m (m.stroke c) = true) : (m.stroke c).stage ≠ .allBlocksValid := by
  intro hv
  have h8 := (h.stroke c).valid hv
  have hr := h.room hd
  simp only [unchanged, Bool.and_eq_true, beq_iff_eq] at hu
  omega

/-- A line is no notice, unless the bare prompt is. -/
theorem isNotice_line (h : m.Sound) (hp : (Event.write prompt).isNotice = false) :
    (Event.write (m.line prompt)).isNotice = false := by
  rw [Machine.line_eq]
  rcases List.eq_nil_or_concat m.shown with hs | ⟨init, c, hs⟩
  · rwa [hs, List.append_nil]
  · rw [List.concat_eq_append] at hs
    refine Event.isNotice_write ?_
    have hc : c ∈ m.shown := by rw [hs]; exact List.mem_append_right _ (List.mem_singleton_self c)
    have hn : c ≠ '\n' := fun e => h.not_mem_shown (by decide) (by decide) (e ▸ hc)
    rw [hs, ← List.append_assoc, List.getLast?_concat]
    simpa using hn

theorem filter_redraw (h : m.Sound) (hd : m.done = false) (hp : (Event.write prompt).isNotice = false)
    (c : Char) :
    (redraw prompt c m (m.stroke c)).filter Event.isNotice =
      (m.stroke c).lastError.toList.flatMap refusal ++
        if (m.stroke c).stage = .allBlocksValid then [validNotice] else [] := by
  cases hu : unchanged m (m.stroke c) with
  | true =>
    rw [redraw_unchanged hu, lastError_of_unchanged hu, if_neg (stage_of_unchanged h hd hu)]
    rfl
  | false =>
    have hline := isNotice_line (h.stroke c) hp
    have hblank : (Event.write ((m.stroke c).line prompt ++ [' ', ' '])).isNotice = false :=
      Event.isNotice_write (by simp)
    have hrefusal : ((m.stroke c).lastError.toList.flatMap refusal).filter Event.isNotice =
        (m.stroke c).lastError.toList.flatMap refusal := by
      cases (m.stroke c).lastError <;> rfl
    have hvalid : validNotice.isNotice = true := by decide
    rw [redraw_changed hu]
    simp only [List.filter_append, hrefusal, List.filter_singleton, hline, cond_false,
      List.append_nil]
    congr 1
    · split <;> simp [hblank]
    · split <;> simp [hvalid]

theorem records_append (threshold : Int) (xs ys : List Event) :
    records threshold (xs ++ ys) = records threshold xs ++ records threshold ys :=
  List.filterMap_append

theorem records_redraw (threshold : Int) (c : Char) (n : Machine) :
    records threshold (redraw prompt c m n) =
      (n.lastError.toList.map rejection).filter (·.keptAt threshold) := by
  cases hu : unchanged m n with
  | true =>
    rw [redraw_unchanged hu, lastError_of_unchanged hu]
    rfl
  | false =>
    have hrefusal : records threshold (n.lastError.toList.flatMap refusal) =
        (n.lastError.toList.map rejection).filter (·.keptAt threshold) := by
      cases n.lastError with
      | none => rfl
      | some e =>
        by_cases hk : (rejection e).keptAt threshold = true <;>
          simp [records, refusal, invalidNotice, hk]
    have hline (text : List Char) : records threshold [.write text] = [] := rfl
    rw [redraw_changed hu, records_append, records_append, records_append, hrefusal, hline]
    split <;> split <;> simp [records, validNotice]

end Stroke

/-! ## Typed characters -/

theorem drawn_append (prompt : List Char) (m : Machine) (cs ds : List Char) :
    drawn prompt m (cs ++ ds) = drawn prompt m cs ++ drawn prompt (m.typed cs) ds := by
  induction cs generalizing m with
  | nil => rfl
  | cons c cs ih => rw [List.cons_append, drawn, drawn, ih, List.append_assoc, Machine.typed_cons]

theorem filter_drawn {prompt : List Char} (hp : (Event.write prompt).isNotice = false)
    {cs : List Char} {m : Machine} (h : m.Sound) (hm : m.done = false)
    (hd : ∀ j < cs.length, (m.typed (cs.take j)).done = false) :
    (drawn prompt m cs).filter Event.isNotice =
      (m.rejections cs).flatMap refusal ++
        if (m.typed cs).stage = .allBlocksValid then [validNotice] else [] := by
  induction cs generalizing m with
  | nil =>
    rw [Machine.typed_nil, if_neg (Machine.done_eq_false_iff.1 hm).1]
    rfl
  | cons c cs ih =>
    rw [drawn, List.filter_append, filter_redraw h hm hp, Machine.rejections, List.flatMap_append,
      Machine.typed_cons]
    cases cs with
    | nil =>
      rw [drawn, Machine.rejections, List.filter_nil, List.flatMap_nil, List.append_nil, List.append_nil]
      rfl
    | cons a cs =>
      have hn : (m.stroke c).done = false := hd 1 (by simp)
      rw [if_neg (Machine.done_eq_false_iff.1 hn).1, List.append_nil, List.append_assoc,
        ih (h.stroke c) hn fun j hj => hd (j + 1) (Nat.succ_lt_succ hj)]

theorem records_drawn (threshold : Int) (prompt : List Char) (m : Machine) (cs : List Char) :
    records threshold (drawn prompt m cs) =
      ((m.rejections cs).map rejection).filter (·.keptAt threshold) := by
  induction cs generalizing m with
  | nil => rfl
  | cons c cs ih =>
    rw [drawn, records_append, records_redraw, ih, Machine.rejections, List.map_append,
      List.filter_append]

/-- What a stroke rejects, validation rejects. -/
theorem shortValue_lastError {m : Machine} (h : m.Sound) (hd : m.done = false) {c : Char}
    {e : BlockError} (he : (m.stroke c).lastError = some e) :
    Block.shortValue e.place e.digits = .error e := by
  rw [Machine.stroke_eq hd] at he
  cases hc : Stroke.ofChar c with
  | erase => simp [hc, Machine.press] at he
  | other => simp [hc, Machine.press] at he
  | digit a =>
    rw [hc] at he
    rcases Nat.lt_or_eq_of_le h.cursor with hlen | hlen
    · simp [Machine.press_digit_short a hlen] at he
    · cases hf : Block.fault? (m.digits ++ [a]) with
      | none => simp [Machine.press_digit_accepted hlen hf] at he
      | some f =>
        rw [Machine.press_digit_rejected hlen hf] at he
        obtain rfl := Option.some.inj he
        exact Block.shortValue_of_fault hf

theorem shortValue_rejections {cs : List Char} {m : Machine} (h : m.Sound)
    (hd : ∀ j < cs.length, (m.typed (cs.take j)).done = false) :
    ∀ e ∈ m.rejections cs, Block.shortValue e.place e.digits = .error e := by
  induction cs generalizing m with
  | nil => exact nofun
  | cons c cs ih =>
    intro e he
    rcases List.mem_append.1 he with he | he
    · exact shortValue_lastError h (hd 0 (Nat.succ_pos _)) (Option.mem_toList.1 he)
    · exact ih (h.stroke c) (fun j hj => hd (j + 1) (Nat.succ_lt_succ hj)) e he

/-! ## The whole dialogue -/

/-- What is said in the end: the second notice, if there is a password. -/
def farewell : Except Failed (List Char) → List Event
  | .ok _ => [validNotice]
  | .error _ => []

section Ending

variable {m : Machine} {cs : List Char} {fault : Option ReadError} {d : Nat}
  {result : Except Failed (List Char)}

theorem take_succ_of_length (hd : d = cs.length) : cs.take (d + 1) = cs.take d := by
  rw [List.take_of_length_le (by omega), List.take_of_length_le (by omega)]

theorem Ending.eq_ok (h : Ending m cs fault d result) (hm : (m.typed (cs.take d)).done = false)
    {p : List Char} (hp : (m.typed (cs.take (d + 1))).password? = some p) : result = .ok p := by
  have hv := (Machine.done_eq_false_iff.1 hm).1
  have hv' := (Machine.password?_eq_some_iff.1 hp).1
  cases h with
  | complete c q _ _ hq => rw [Option.some.inj (hq.symm.trans hp)]
  | abort c hc ha =>
    rw [Machine.typed_take_succ m hc] at hv'
    exact absurd hv' (Machine.stage_stroke_aborter hm ha)
  | ended hd _ => exact absurd (take_succ_of_length hd ▸ hv') hv
  | failed e hd _ => exact absurd (take_succ_of_length hd ▸ hv') hv

theorem Ending.eq_read {e : ReadError} (h : Ending m cs (some e) d result) (hd : cs.length ≤ d) :
    result = .error (.read e) := by
  have hnone : cs[d]? = none := List.getElem?_eq_none hd
  cases h with
  | complete c p hc _ _ | abort c hc _ => rw [hnone] at hc; cases hc
  | ended _ hf => cases hf
  | failed e' _ hf => rw [Option.some.inj hf]

theorem Ending.eq_ended {c : Char} (h : Ending m cs fault d result) (hc : cs[d]? = some c)
    (ha : c ∈ Stroke.aborters) :
    result = .error (.ended ((m.typed (cs.take d)).blocks.length + 1)) := by
  cases h with
  | complete c' p hc' ha' _ =>
    rw [hc] at hc'
    exact absurd (Option.some.inj hc' ▸ ha) ha'
  | abort | ended => rfl
  | failed e hd _ =>
    rw [List.getElem?_eq_none (Nat.le_of_eq hd.symm)] at hc
    cases hc

theorem Ending.eq_read_iff {e : ReadError} (h : Ending m cs (some e) d result) :
    result = .error (.read e) ↔ d = cs.length := by
  refine ⟨fun hr => ?_, fun hd => h.eq_read (Nat.le_of_eq hd.symm)⟩
  subst hr
  cases h with
  | failed _ hd _ => exact hd

theorem Ending.farewell_eq (h : Ending m cs fault d result) (hm : (m.typed (cs.take d)).done = false) :
    farewell result =
      if (m.typed (cs.take (d + 1))).stage = .allBlocksValid then [validNotice] else [] := by
  split
  · next hv =>
    rw [h.eq_ok hm (Machine.password?_eq_some_iff.2 ⟨hv, rfl⟩)]
    rfl
  · next hv =>
    cases h with
    | complete c p _ _ hp => exact absurd (Machine.password?_eq_some_iff.1 hp).1 hv
    | abort | ended | failed => rfl

/-- An entry that ends early says which block was being typed. -/
theorem Ending.place_eq {k : Nat} (h : Ending m cs fault d (.error (.ended k))) :
    k = (m.typed (cs.take d)).blocks.length + 1 := by
  cases h <;> rfl

theorem Ending.character (h : Ending m cs fault d result) {p : List Char} (hp : result = .ok p) :
    ∃ c, cs[d]? = some c ∧ (m.typed (cs.take (d + 1))).stage = .allBlocksValid := by
  subst hp
  cases h with
  | complete c _ hc _ hp => exact ⟨c, hc, (Machine.password?_eq_some_iff.1 hp).1⟩

end Ending

/-- A stroke that completes the password is drawn, and the farewell comes last. -/
theorem exists_drawn_concat (prompt : List Char) {m : Machine} (h : m.Sound) {cs : List Char} {d : Nat}
    {c : Char} (hm : (m.typed (cs.take d)).done = false) (hc : cs[d]? = some c)
    (hv : (m.typed (cs.take (d + 1))).stage = .allBlocksValid) :
    ∃ before, drawn prompt m (cs.take (d + 1)) = before ++ [validNotice] := by
  obtain ⟨hd, rfl⟩ := List.getElem?_eq_some_iff.1 hc
  rw [Machine.typed_take_succ m hc] at hv
  have hu : unchanged (m.typed (cs.take d)) ((m.typed (cs.take d)).stroke cs[d]) = false :=
    Bool.eq_false_iff.2 fun hu => stage_of_unchanged (h.afterTyping _) hm hu hv
  rw [List.take_succ_eq_append_getElem hd, drawn_append, drawn, drawn, redraw_changed hu, if_pos hv,
    List.append_nil, ← List.append_assoc]
  exact ⟨_, rfl⟩

/-- What is to hold of a dialogue with end `r` on a source `s` of `cs`, if reading `d` decides it. -/
structure Lawful {σ : Type} [Source σ] (prompt cs : List Char) (fault : Option ReadError) (s : σ)
    (d : Nat) (r : Run σ) : Prop where
  decides : Decides start cs d
  ending : Ending start cs fault d r.result
  /-- Every character is given to a machine that takes it. -/
  taking : ∀ j ≤ d, (start.typed (cs.take j)).done = false
  standing : ∀ e, r.result = .error (.read e) → r.machine = start.typed (cs.take d)
  place : ∀ k, r.result = .error (.ended k) → 1 ≤ k ∧ k ≤ 8
  /-- No character behind the one that decides is read, and the source is closed. -/
  consumed : r.source = (Source.close (afterReads s (d + 1))).2
  closed : (Source.close (afterReads s (d + 1))).1 = .ok () → r.outcome = r.result
  unclosed : ∀ e, (Source.close (afterReads s (d + 1))).1 = .error e → r.outcome = .error (.unclosed e)
  seen : r.events = .write prompt :: drawn prompt start (cs.take (d + 1))
  rejected : ∀ e ∈ start.rejections (cs.take (d + 1)), Block.shortValue e.place e.digits = .error e
  records : ∀ threshold, records threshold r.events =
    ((start.rejections (cs.take (d + 1))).map rejection).filter (·.keptAt threshold)
  notices : (Event.write prompt).isNotice = false → r.events.filter Event.isNotice =
    (start.rejections (cs.take (d + 1))).flatMap refusal ++ farewell r.result
  last : ∀ p, r.result = .ok p → ∃ before, r.events = before ++ [validNotice]

theorem Run.outcome_of_closed {σ : Type} {r : Run σ} (h : r.closing = .ok ()) : r.outcome = r.result := by
  rw [Run.outcome, h]

theorem Run.outcome_of_unclosed {σ : Type} {r : Run σ} {e : ModeError} (h : r.closing = .error e) :
    r.outcome = .error (.unclosed e) := by
  rw [Run.outcome, h]

theorem exists_lawful {σ : Type} [Source σ] (prompt : List Char) {cs : List Char}
    {fault : Option ReadError} {s : σ} (h : Delivers s cs fault) :
    ∃ d, Lawful prompt cs fault s d (run prompt s) := by
  obtain ⟨d, hdec, hend, hmach, hsrc, hev⟩ := talk_law prompt (m := start) rfl h
  have hresult : (run prompt s).result = (talk prompt start s).result := rfl
  have hclosing : (run prompt s).closing = (Source.close (afterReads s (d + 1))).1 := by
    rw [← hsrc]
    rfl
  rw [← hresult] at hend
  have hsound : start.Sound := Machine.sound_start
  have htaking := hdec.taking rfl
  have hlt : ∀ j < (cs.take (d + 1)).length, (start.typed ((cs.take (d + 1)).take j)).done = false := by
    intro j hj
    have hjd : j ≤ d := by
      rw [List.length_take] at hj
      omega
    rw [List.take_take, Nat.min_eq_left (Nat.le_succ_of_le hjd)]
    exact htaking j hjd
  have hline : start.line prompt = prompt := by simp [Machine.line_eq, Machine.shown_start]
  have hseen : (run prompt s).events = .write prompt :: drawn prompt start (cs.take (d + 1)) := by
    simp only [run, hline, hev]
  refine ⟨d, hdec, hend, htaking, hmach, fun k hk => ?_, congrArg (fun t => (Source.close t).2) hsrc,
    fun hc => Run.outcome_of_closed (hclosing.trans hc),
    fun e he => Run.outcome_of_unclosed (hclosing.trans he), hseen, shortValue_rejections hsound hlt,
    fun threshold => ?_, fun hp => ?_, fun p hp => ?_⟩
  · have hroom := (hsound.afterTyping (cs.take d)).room (htaking d (Nat.le_refl d))
    rw [hk] at hend
    rw [hend.place_eq]
    exact ⟨Nat.le_add_left 1 _, hroom⟩
  · rw [hseen, ← records_drawn]
    rfl
  · rw [hseen, List.filter_cons, hp, filter_drawn hp hsound rfl hlt,
      hend.farewell_eq (htaking d (Nat.le_refl d))]
    rfl
  · obtain ⟨c, hc, hv⟩ := hend.character hp
    obtain ⟨before, hb⟩ := exists_drawn_concat prompt hsound (htaking d (Nat.le_refl d)) hc hv
    exact ⟨.write prompt :: before, by rw [hseen, hb]; rfl⟩

/-- On a terminal whose mode was saved, the end of the input hides how a dialogue ended. -/
theorem Lawful.outcome_terminal {α : Type} {prompt : List Char} {t : Terminal α} {bytes : List UInt8}
    {d : Nat} (h : t.Offers bytes)
    (hlaw : Lawful prompt (Terminal.latin bytes) none t d (run prompt t)) :
    (run prompt t).outcome =
      if t.saved.isSome ∧ d = bytes.length then .error (.unclosed .gone) else (run prompt t).result := by
  have hle : d ≤ bytes.length := by simpa [Terminal.latin] using hlaw.decides.le
  have hanswer := (h.close_after (d + 1)).2.2
  split
  · next hg => exact hlaw.unclosed _ (hanswer.trans (if_pos ⟨hg.1, by omega⟩))
  · next hg => exact hlaw.closed (hanswer.trans (if_neg fun hk => hg ⟨hk.1, by omega⟩))

/-- **The law of a dialogue.** On a source that delivers some characters and then ends or fails, reading
stops at the first that decides the dialogue, lawfully, and the dialogue comes to what reading came to unless
the source cannot be closed properly. Texts cut anywhere, and bytes that wait on a pipe or a terminal, are such
sources, and so is every source of which some read is made to fail; what they hold behind the characters that
were read stays there. Only a terminal in raw mode may not be closed properly, and just when its input has
ended: then it is the mode that could not be brought back that is reported, in place of the block that was
being typed. -/
theorem run_law (prompt : List Char) :
    (∀ (σ : Type) [Source σ] (s : σ) cs fault, Delivers s cs fault →
      ∃ d, Lawful prompt cs fault s d (run prompt s)) ∧
    (∀ texts, Delivers (Script.ofTexts texts) texts.flatten none ∧
      ∀ k, Source.close (afterReads (Script.ofTexts texts) k) = (.ok (), ⟨texts.flatten.drop k, true⟩)) ∧
    (∀ (α : Type) (t : Terminal α) bytes, t.Offers bytes → Delivers t (Terminal.latin bytes) none ∧
      (∀ k, (Source.close (afterReads t k)).2.closed = true ∧
        (Source.close (afterReads t k)).2.device.contents = bytes.drop k) ∧
      ∀ d, Lawful prompt (Terminal.latin bytes) none t d (run prompt t) → (run prompt t).outcome =
        if t.saved.isSome ∧ d = bytes.length then .error (.unclosed .gone) else (run prompt t).result) ∧
    (∀ (σ : Type) [Source σ] (s : σ) cs fault, Delivers s cs fault → ∀ n e,
      Delivers (⟨s, n, e⟩ : Interrupted σ) (cs.take n) (if n ≤ cs.length then some e else fault) ∧
      ∀ k, let inner := Source.close (afterReads s (min k n))
        Source.close (afterReads (⟨s, n, e⟩ : Interrupted σ) k) = (inner.1, ⟨inner.2, n - k, e⟩)) ∧
    ∀ k, endedMessage k = "Input ended before the recovery password was complete (block " ++
      toString k ++ " of 8)" := by
  refine ⟨fun σ _ s cs fault h => exists_lawful prompt h, fun texts => ?_, fun α t bytes h => ?_,
    fun σ _ s cs fault h n e => ?_, fun k => ?_⟩
  · exact ⟨Script.delivers _, Script.close_after _⟩
  · exact ⟨h.delivers, fun k => ⟨(h.close_after k).1, (h.close_after k).2.1⟩,
      fun d hlaw => hlaw.outcome_terminal h⟩
  · exact ⟨Interrupted.delivers h n e, Interrupted.close_after s n e⟩
  · have hcount : " of " ++ (toString Password.blockCount ++ ")") = " of 8)" := rfl
    unfold endedMessage
    rewrite [← hcount, ← String.append_assoc, ← String.append_assoc]
    rfl

/-- A bad block, eight good ones with a digit taken back, and one character more, typed on a terminal. -/
theorem run_law_terminal :
    let typed := "00001200001\x7f11-7208850000000000000000000000000000000000117".toList
    let bytes := typed.map fun c => c.toNat.toUInt8
    let opened := (Terminal.on (.idle .terminal Mode.cooked)).opened
    let t : Terminal Mode := { opened with device := opened.device.receive bytes }
    let r := run standardPrompt t
    t.Offers bytes ∧ r.outcome = r.result ∧
      r.result = .ok "000011-720885-000000-000000-000000-000000-000000-000011".toList ∧
      (records 40 r.events).length = 1 ∧ r.source.closed = true ∧ r.source.device.contents = [55] := by
  intro typed bytes opened t r
  have hlatin : Terminal.latin bytes = typed := by decide +kernel
  have ht : t.Offers bytes := Terminal.offers_raw Mode.cooked bytes
  obtain ⟨hlaw, -, hterminals, -⟩ := run_law standardPrompt
  obtain ⟨hdelivers, hleft, houtcome⟩ := hterminals Mode t bytes ht
  rw [hlatin] at hdelivers houtcome
  obtain ⟨d, h⟩ := hlaw (Terminal Mode) t typed none hdelivers
  have hd : Decides start typed 56 := by decide +kernel
  obtain rfl := h.decides.unique hd
  refine ⟨ht, (houtcome 56 h).trans (if_neg (by decide)), ?_, ?_, ?_, ?_⟩
  · exact h.ending.eq_ok (h.taking 56 (Nat.le_refl 56)) (by decide +kernel)
  · rw [h.records]
    decide +kernel
  · rw [h.consumed]
    exact (hleft _).1
  · rw [h.consumed]
    exact (hleft _).2

/-- A terminal in raw mode on which nothing is typed before its other end goes away. Its reader delivers no
character and then the end, and reading ends with the first block, but that is not what the dialogue comes to. -/
theorem run_hung_up :
    let t := (Terminal.on (.idle .terminal Mode.cooked)).opened
    let r := run standardPrompt t
    Delivers t [] none ∧ r.result = .error (.ended 1) ∧ r.outcome = .error (.unclosed .gone) ∧
      ∀ k, r.outcome ≠ .error (.ended k) := by
  intro t r
  have ht : t.Offers [] := Terminal.offers_raw Mode.cooked []
  have htalk := talk_ended standardPrompt start t ht.delivers.last
  have hr : r.result = .error (.ended 1) := by
    show (talk standardPrompt start t).result = _
    rw [htalk]
    rfl
  have hclosing : r.closing = .error .gone := by
    show (Source.close (talk standardPrompt start t).source).1 = _
    rw [htalk]
    rfl
  have houtcome := Run.outcome_of_unclosed hclosing
  exact ⟨ht.delivers, hr, houtcome, fun k hk => by rw [houtcome] at hk; cases hk⟩

end KeyRecovery.Dialogue
