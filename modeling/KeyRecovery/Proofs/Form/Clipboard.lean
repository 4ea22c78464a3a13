import KeyRecovery.Proofs.Form.Custody
import KeyRecovery.Proofs.Text.Hex

/-!
# What the form leaves on the clipboard

* `Form.Untouched f f'`, `Form.Puts f f'` : from `f` to `f'` nothing was put on the clipboard, or at most the
  key that the session holds;
* `Form.puts_copyKey`, `Form.puts_press`, `Form.puts_workerChanged` : so it is for all but leaving;
* `Custody.stepWhile`, `Custody.runWhile` : events while the clipboard refuses texts, or takes them;
* `Filled c` : a sound form with a key of the usual length, if it holds one;
* `Written old keys c` : what the clipboard got since it held `old`; `Written.stay`, `Written.leave` : what one
  event adds to it;
* `clipboard_run` : so it is after any events.
-/

namespace KeyRecovery

open Memory (Wipes)

theorem Clipboard.eq_of_put {c c' : Clipboard} {text : List Char} (h : c.put text = .ok c') :
    c' = { c with copies := c.copies ++ [text] } := by
  unfold put at h
  generalize (if text.isEmpty then c.refusesEmpty else c.refusesText) = refuses at h
  cases refuses with
  | true => cases h
  | false => exact (Except.ok.inj h).symm

namespace Form

structure Untouched (f f' : Form) : Prop where
  copies : f'.clipboard.copies = f.clipboard.copies
  refusesEmpty : f'.clipboard.refusesEmpty = f.clipboard.refusesEmpty
  copied : f'.copied = f.copied

theorem Untouched.refl (f : Form) : Untouched f f := ⟨rfl, rfl, rfl⟩

theorem Untouched.trans {f f' f'' : Form} (h : Untouched f f') (h' : Untouched f' f'') :
    Untouched f f'' :=
  ⟨h'.copies.trans h.copies, h'.refusesEmpty.trans h.refusesEmpty, h'.copied.trans h.copied⟩

/-- From `f` to `f'` nothing was put on the clipboard but a key that the session holds. -/
inductive Puts (f f' : Form) : Prop
  | nothing (h : Untouched f f')
  | key {key : BufferId} (hheld : f'.session.held = some key)
      (hcopies : f'.clipboard.copies = f.clipboard.copies ++ [Hex.dump [] (f'.memory.bytes key)])
      (hempty : f'.clipboard.refusesEmpty = f.clipboard.refusesEmpty) (hcopied : f'.copied = true)

/-- What is put on the clipboard after it was left alone. -/
theorem Puts.after {f f' f'' : Form} (h' : Puts f' f'') (h : Untouched f f') : Puts f f'' := by
  cases h' with
  | nothing hu => exact .nothing (h.trans hu)
  | key hheld hcopies hempty hcopied =>
    exact .key hheld (h.copies ▸ hcopies) (hempty.trans h.refusesEmpty) hcopied

/-! ## Handlers -/

theorem untouched_feed {f f' : Form} {text : List Char} (h : f.feed text = .ok f') : Untouched f f' := by
  unfold feed at h
  split at h
  · cases h
  · next m hm =>
    cases h
    obtain ⟨status, screen, log, hreport⟩ := reportStroke_eq { f with machine := m }
    rw [hreport]
    simp only [requestKey, refresh]
    split <;> exact ⟨rfl, rfl, rfl⟩

theorem mount_untouched (f : Form) : ∃ f', f.mount = .ok f' ∧ Untouched f f' := by
  rw [mount_eq]
  exact feedAll_induction (P := Untouched f) (fun hf hu => hu.trans (untouched_feed hf))
    (f := f.opened) ⟨rfl, rfl, rfl⟩ _

theorem untouched_reportFailure (f : Form) (reason : String) :
    Untouched f (f.reportFailure reason).2 := by
  unfold reportFailure
  simp only
  split <;> exact ⟨rfl, rfl, rfl⟩

theorem untouched_deliver (f : Form) (key : BufferId) : Untouched f (f.deliver key).2 := by
  unfold deliver
  split <;> exact ⟨rfl, rfl, rfl⟩

theorem puts_copyKey (f : Form) : Puts f f.copyKey := by
  obtain ⟨notices, heq | ⟨key, c, hkey, hput, heq⟩⟩ := f.copyKey_cases
  · rw [heq]
    exact .nothing ⟨rfl, rfl, rfl⟩
  · obtain ⟨hheld, hsame⟩ := Session.held_key (hkey : (f.session.key f.clock f.memory).1 = .ok key)
    have hsession : f.sessionKey.2.session = f.session := congrArg Prod.snd hsame
    obtain rfl := Clipboard.eq_of_put hput
    rw [heq]
    exact .key (hsession ▸ hheld) rfl rfl rfl

theorem puts_adopt (f : Form) (key : BufferId) : Puts f (f.adopt key).2 := by
  unfold adopt
  simp only
  split
  · exact .nothing ⟨rfl, rfl, rfl⟩
  · split
    · next e f₁ heq =>
      obtain rfl : _ = f₁ := congrArg Prod.snd heq
      exact .nothing ⟨rfl, rfl, rfl⟩
    · next held f₁ heq =>
      obtain rfl : _ = f₁ := congrArg Prod.snd heq
      unfold showKey
      simp only
      split
      · exact (puts_copyKey _).after ⟨rfl, rfl, rfl⟩
      · exact .nothing ⟨rfl, rfl, rfl⟩

theorem puts_workerChanged (f : Form) (finished : Bool) (name : String) (report : Datum) :
    Puts f (f.workerChanged finished name report).2 := by
  unfold workerChanged settle
  split
  · split
    · exact .nothing (Untouched.refl f)
    · exact .nothing (untouched_reportFailure f _)
    · split
      · exact puts_adopt f _
      · exact .nothing (Untouched.refl f)
  · exact .nothing (Untouched.refl f)

theorem puts_press {f f' : Form} {e : KeyEvent} (he : e.name ≠ "escape".toList) (h : Pressed f e f') :
    Puts f f' := by
  cases h with
  | left he' => exact absurd he' he
  | copied he hd => exact puts_copyKey f
  | ignored he hd => exact .nothing (Untouched.refl f)
  | typed he hd hs h => exact .nothing (untouched_feed h)

/-- Leaving puts the empty text on a clipboard that takes it, if a key was copied. -/
theorem copies_wipeSecrets {f : Form} (h : f.clipboard.refusesEmpty = false) :
    f.wipeSecrets.clipboard.copies = f.clipboard.copies ++ (if f.copied = true then [[]] else []) ∧
      f.wipeSecrets.clipboard.refusesEmpty = false ∧ f.wipeSecrets.copied = false := by
  have hclear : f.clipboard.clear = .ok { f.clipboard with copies := f.clipboard.copies ++ [[]] } := by
    simp [Clipboard.clear, Clipboard.put, h]
  unfold wipeSecrets
  simp only [hclear]
  cases f.copied <;> simp [h]

/-- The form while its clipboard refuses texts, or takes them. -/
def refusing (f : Form) (refuses : Bool) : Form :=
  { f with clipboard := { f.clipboard with refusesText := refuses } }

end Form

namespace Custody

open Form (Untouched Puts)

/-! ## One event -/

def stepWhile (c : Custody) (refuses : Bool) (e : Form.Event) : Custody :=
  { c with form := c.form.refusing refuses }.step e

/-- What some events do, one after the other, each with whether the clipboard refuses texts. -/
def runWhile (c : Custody) (turns : List (Bool × Form.Event)) : Custody :=
  turns.foldl (fun c t => c.stepWhile t.1 t.2) c

theorem puts_step (c : Custody) {e : Form.Event} (he : e.leaves = false) : Puts c.form (c.step e).form := by
  have hsame : Puts c.form c.form := .nothing (Untouched.refl c.form)
  cases e with
  | mount =>
    obtain ⟨f, hf, hu⟩ := c.form.mount_untouched
    simp only [step, hf]
    exact .nothing hu
  | press e =>
    obtain ⟨taken, f, hf, hp⟩ := c.form.press_ok e
    simp only [step, hf]
    exact Form.puts_press (of_decide_eq_false he) hp
  | derive i =>
    simp only [step]
    split
    · exact hsame
    · split
      · next key f heq =>
        obtain rfl : _ = f := congrArg Prod.snd heq
        exact .nothing ⟨rfl, rfl, rfl⟩
      · next e f heq =>
        obtain rfl : _ = f := congrArg Prod.snd heq
        exact .nothing ⟨rfl, rfl, rfl⟩
  | deliver i =>
    simp only [step]
    split
    · exact hsame
    · exact .nothing (Form.untouched_deliver c.form _)
  | notice finished name report => exact Form.puts_workerChanged c.form finished name report
  | copy => exact Form.puts_copyKey c.form
  | quit => cases he
  | unmount => cases he
  | setClock now => exact .nothing ⟨rfl, rfl, rfl⟩

/-- An event that leaves the form does to the clipboard what wiping does. -/
theorem untouched_step (c : Custody) {e : Form.Event} (he : e.leaves = true) :
    Untouched c.form.wipeSecrets (c.step e).form := by
  cases e with
  | press e =>
    obtain ⟨taken, f, hf, hp⟩ := c.form.press_ok e
    have he : e.name = "escape".toList := of_decide_eq_true he
    simp only [step, hf]
    cases hp with
    | left he => exact ⟨rfl, rfl, rfl⟩
    | copied he' hd => exact absurd he he'
    | ignored he' h => exact absurd he he'
    | typed he' hd hs h => exact absurd he he'
  | quit => exact ⟨rfl, rfl, rfl⟩
  | unmount => exact ⟨rfl, rfl, rfl⟩
  | mount | derive | deliver | notice | copy | setClock => cases he

/-! ## The key that is held -/

structure Filled (c : Custody) : Prop extends Sound c where
  length : ∀ key, c.form.session.held = some key →
    (c.form.memory.bytes key).length = Chain.digestLength

/-- A key that is held after the memory was wiped, and before, keeps its length. -/
theorem Filled.held_length {c : Custody} (h : Filled c) {m : Memory} {key : BufferId}
    (hw : Wipes c.form.memory m) (hk : c.form.session.held = some key) :
    (m.bytes key).length = Chain.digestLength :=
  (hw.length (h.session key hk).1).trans (h.length key hk)

theorem Filled.kept {c : Custody} (h : Filled c) {f : Form} (hk : Form.Keeps c.form f) :
    Filled { c with form := f } := by
  refine ⟨h.toSound.kept hk, fun key hkey => ?_⟩
  rcases hk.held with hs | hs
  · exact h.held_length hk.safe.wipes (hs ▸ hkey)
  · rw [hs] at hkey
    cases hkey

theorem Filled.moves {c c' : Custody} {leaving : Bool} (h : Filled c) (hm : Moves c leaving c') :
    Filled c' := by
  have hs := h.toSound.moves hm
  cases hm with
  | typed ht =>
    refine ⟨hs, ?_⟩
    rw [ht.memory, ht.session]
    exact h.length
  | kept hk => exact h.kept hk
  | @taken pending f hp hk =>
    have htaken : Filled { c with form := c.form.taken pending } := by
      refine ⟨h.toSound.taken hp, fun key hkey => ?_⟩
      obtain rfl : pending = key := Option.some.inj ((h.held_taken hp).symm.trans hkey)
      exact (h.buffers_wipes (h.call_taken hp).wipes pending (h.pending pending hp)).2.2
    exact htaken.kept hk
  | failed hi hw => exact ⟨hs, fun key hkey => h.held_length hw hkey⟩
  | derived hi hw hkey => exact ⟨hs, fun key hkey => h.held_length hw hkey⟩
  | delivered hi =>
    refine ⟨hs, fun other hother => ?_⟩
    unfold Form.deliver at hother ⊢
    split at hother
    · next hq =>
      rw [if_pos hq]
      exact h.held_length (Wipes.zero c.form.memory _) hother
    · next hq =>
      rw [if_neg hq]
      exact h.length other hother
  | left hl =>
    refine ⟨hs, fun key hkey => ?_⟩
    rw [hl.session] at hkey
    cases hkey

theorem Filled.refusing {c : Custody} (h : Filled c) (refuses : Bool) :
    Filled { c with form := c.form.refusing refuses } :=
  ⟨⟨h.session, h.once, h.typing, h.working, h.pending, h.buffers, h.placed, h.left⟩, h.length⟩

theorem Filled.stepWhile {c : Custody} (h : Filled c) (refuses : Bool) (e : Form.Event) :
    Moves { c with form := c.form.refusing refuses } e.leaves (c.stepWhile refuses e) ∧
      Filled (c.stepWhile refuses e) := by
  have hm := moves_step (h.refusing refuses).toSound e
  exact ⟨hm, (h.refusing refuses).moves hm⟩

/-- Only leaving makes a form one that was left. -/
theorem Moves.quitting_eq {c c' : Custody} (hm : Moves c false c') :
    c'.form.quitting = c.form.quitting := by
  cases hm with
  | typed ht => exact ht.quitting
  | kept hk => exact hk.quitting
  | taken hp hk => exact hk.quitting
  | failed hi hw => rfl
  | derived hi hw hkey => rfl
  | delivered hi =>
    unfold Form.deliver
    split <;> rfl

/-! ## What was put on the clipboard -/

/-- What the clipboard got since it held `old`: some keys, and the empty text behind them once the form was
left. A key that is still there is one that the form knows to be copied. -/
structure Written (old keys : List (List Char)) (c : Custody) : Prop where
  digits : ∀ text ∈ keys, text.length = 64 ∧ ∀ d ∈ text, d ∈ Hex.lowercase
  copies : c.form.clipboard.copies =
    old ++ keys ++ if c.form.quitting = true ∧ keys ≠ [] then [[]] else []
  copied : c.form.copied = true ↔ c.form.quitting = false ∧ keys ≠ []
  takesEmpty : c.form.clipboard.refusesEmpty = false

namespace Written

variable {old keys : List (List Char)} {c : Custody} (h : Written old keys c)
include h

/-- An event that does not leave puts nothing on the clipboard, or the key that the session holds; the
latter only if the form was not left. -/
theorem stay (hf : Filled c) (refuses : Bool) {e : Form.Event} (he : e.leaves = false) :
    let c' := c.stepWhile refuses e
    (c'.form.clipboard.copies = c.form.clipboard.copies ∧ Written old keys c') ∨
    ∃ key, c.form.quitting = false ∧ c'.form.session.held = some key ∧ c'.form.copied = true ∧
      c'.form.clipboard.copies = c.form.clipboard.copies ++ [Hex.dump [] (c'.form.memory.bytes key)] ∧
      Written old (keys ++ [Hex.dump [] (c'.form.memory.bytes key)]) c' := by
  intro c'
  obtain ⟨hm, hf'⟩ := hf.stepWhile refuses e
  rw [he] at hm
  have hq : c'.form.quitting = c.form.quitting := hm.quitting_eq
  have hputs : Puts (c.form.refusing refuses) c'.form :=
    puts_step { c with form := c.form.refusing refuses } he
  cases hputs with
  | nothing hu =>
    refine .inl ⟨hu.copies, h.digits, ?_, ?_, hu.refusesEmpty.trans h.takesEmpty⟩
    · rw [hq]
      exact hu.copies.trans h.copies
    · rw [hq, hu.copied]
      exact h.copied
  | @key key hheld hcopies hempty hcopied =>
    have hstay : c.form.quitting = false := by
      rw [← hq]
      refine Bool.eq_false_iff.2 fun hleft => ?_
      exact nomatch (hf'.left hleft).2.symm.trans hheld
    refine .inr ⟨key, hstay, hheld, hcopied, hcopies, fun text ht => ?_, ?_, ?_, hempty.trans h.takesEmpty⟩
    · rcases List.mem_append.1 ht with ht | ht
      · exact h.digits text ht
      · rw [List.mem_singleton.1 ht, Hex.length_dump, hf'.length key hheld]
        exact ⟨rfl, fun d => Hex.mem_lowercase_of_dump⟩
    · refine hcopies.trans ?_
      have hold := h.copies
      rw [hstay] at hold
      rw [hq, hstay]
      simp only [Form.refusing, hold]
      simp
    · simp [hcopied, hq, hstay]

theorem leave (hf : Filled c) (refuses : Bool) {e : Form.Event} (he : e.leaves = true) :
    let c' := c.stepWhile refuses e
    c'.form.clipboard.copies = c.form.clipboard.copies ++ (if c.form.copied = true then [[]] else []) ∧
      c'.form.copied = false ∧ Written old keys c' := by
  intro c'
  have hu : Untouched (c.form.refusing refuses).wipeSecrets c'.form :=
    untouched_step { c with form := c.form.refusing refuses } he
  obtain ⟨hwiped, hempty, hcleared⟩ := Form.copies_wipeSecrets (f := c.form.refusing refuses) h.takesEmpty
  have hq : c'.form.quitting = true := (hf.stepWhile refuses e).1.quitting (.inl he)
  have hcopies : c'.form.clipboard.copies =
      c.form.clipboard.copies ++ (if c.form.copied = true then [[]] else []) := hu.copies.trans hwiped
  refine ⟨hcopies, hu.copied.trans hcleared, h.digits, ?_, ?_, hu.refusesEmpty.trans hempty⟩
  · rw [hcopies, h.copies, hq]
    by_cases hc : c.form.copied = true
    · obtain ⟨hstay, hkeys⟩ := h.copied.1 hc
      simp [hc, hstay, hkeys]
    · have hn := fun hstay hkeys => hc (h.copied.2 ⟨hstay, hkeys⟩)
      by_cases hkeys : keys = []
      · simp [hc, hkeys]
      · have hleft : c.form.quitting = true := Bool.not_eq_false _ |>.mp fun hstay => hn hstay hkeys
        simp [hc, hleft]
  · simp [hu.copied.trans hcleared, hq]

end Written

/-! ## A run -/

section Run

variable {old keys : List (List Char)} {c : Custody}

/-- Once the form was left nothing more is put on the clipboard. -/
theorem Written.run_left (h : Written old keys c) (hf : Filled c) (hq : c.form.quitting = true)
    (turns : List (Bool × Form.Event)) :
    Written old keys (c.runWhile turns) ∧ Filled (c.runWhile turns) ∧
      (c.runWhile turns).form.quitting = true := by
  induction turns generalizing c with
  | nil => exact ⟨h, hf, hq⟩
  | cons t turns ih =>
    obtain ⟨hm, hf'⟩ := hf.stepWhile t.1 t.2
    have hq' := hm.quitting (.inr hq)
    cases he : t.2.leaves with
    | true => exact ih (h.leave hf t.1 he).2.2 hf' hq'
    | false =>
      rcases h.stay hf t.1 he with ⟨-, h'⟩ | ⟨key, hstay, -⟩
      · exact ih h' hf' hq'
      · rw [hq] at hstay
        cases hstay

/-- The keys that were put on the clipboard before the form was left are all there will ever be. -/
theorem Written.run (h : Written old keys c) (hf : Filled c) (hq : c.form.quitting = false)
    (turns : List (Bool × Form.Event)) :
    let before := c.runWhile (turns.takeWhile fun t => !t.2.leaves)
    ∃ keys', (Written old keys' before ∧ before.form.quitting = false) ∧
      Written old keys' (c.runWhile turns) ∧ Filled (c.runWhile turns) ∧
      (c.runWhile turns).form.quitting = turns.any fun t => t.2.leaves := by
  induction turns generalizing c keys with
  | nil => exact ⟨keys, ⟨h, hq⟩, h, hf, hq⟩
  | cons t turns ih =>
    obtain ⟨hm, hf'⟩ := hf.stepWhile t.1 t.2
    cases he : t.2.leaves with
    | true =>
      have hleft := (h.leave hf t.1 he).2.2.run_left hf' (hm.quitting (.inl he)) turns
      simp only [List.takeWhile_cons, List.any_cons, he]
      exact ⟨keys, ⟨h, hq⟩, hleft⟩
    | false =>
      rw [he] at hm
      have hq' : (c.stepWhile t.1 t.2).form.quitting = false := hm.quitting_eq.trans hq
      simp only [List.takeWhile_cons, List.any_cons, he]
      rcases h.stay hf t.1 he with ⟨-, h'⟩ | ⟨key, -, -, -, -, h'⟩
      · exact ih h' hf' hq'
      · exact ih h' hf' hq'

end Run

/-- **What is left on the clipboard.** A form is set up with a session, whose key has the usual length if it
holds one, and a clipboard that takes the empty text; then anything happens to it and its workers, in any
order, while the clipboard takes other texts or refuses them. What the clipboard gets are keys in lowercase
hex, each of them the key that the session holds, and the form knows whether it got any. When the form is
left for the first time the empty text follows, if there was a key; and after that nothing more. -/
theorem clipboard_run (settings : Settings) (rounds : Nat) (clipboard : Clipboard)
    (hempty : clipboard.refusesEmpty = false) (display : List Char → Except String Unit) (now : Float)
    {m : Memory} {s : Session} (hs : Session.Sound m s) (hlength : ∀ key, s.held = some key → (m.bytes key).length = 32)
    (turns : List (Bool × Form.Event)) :
    let start : Custody :=
      ⟨{ Form.new settings rounds clipboard display with memory := m, session := s, clock := now }, [], []⟩
    let before := start.runWhile (turns.takeWhile fun t => !t.2.leaves)
    let left := turns.any fun t => t.2.leaves
    let c := start.runWhile turns
    ∃ keys : List (List Char),
      (∀ text ∈ keys, text.length = 64 ∧ ∀ d ∈ text, d ∈ Hex.lowercase) ∧
      (before.form.clipboard.copies = clipboard.copies ++ keys ∧
        (before.form.copied = true ↔ keys ≠ [])) ∧
      (c.form.clipboard.copies = clipboard.copies ++
          (keys ++ if left = true ∧ keys ≠ [] then [[]] else []) ∧
        (c.form.copied = true ↔ left = false ∧ keys ≠ [])) ∧
      ∀ refuses e, let c' := c.stepWhile refuses e
        c'.form.clipboard.copies = c.form.clipboard.copies ∨
        (∃ key, left = false ∧ e.leaves = false ∧ c'.form.session.held = some key ∧
          (c'.form.memory.bytes key).length = 32 ∧ c'.form.copied = true ∧ c'.form.clipboard.copies =
            c.form.clipboard.copies ++ [Hex.dump [] (c'.form.memory.bytes key)]) ∨
        (left = false ∧ e.leaves = true ∧ keys ≠ [] ∧ c'.form.copied = false ∧
          c'.form.clipboard.copies = c.form.clipboard.copies ++ [[]]) := by
  intro start before left c
  have hwritten : Written clipboard.copies [] start :=
    ⟨nofun, by simp [start, Form.new], by simp [start, Form.new], hempty⟩
  have hfilled : Filled start := ⟨sound_new hs rfl rfl rfl, hlength⟩
  obtain ⟨keys, ⟨hbefore, hstay⟩, h, hf, hleft⟩ := hwritten.run hfilled rfl turns
  refine ⟨keys, h.digits, ⟨?_, ?_⟩, ⟨?_, ?_⟩, fun refuses e => ?_⟩
  · exact hbefore.copies.trans (by simp [hstay])
  · exact hbefore.copied.trans (by simp [hstay])
  · rw [h.copies, hleft, List.append_assoc]
  · rw [h.copied, hleft]
  · have hkeys : c.form.copied = true ↔ left = false ∧ keys ≠ [] := by rw [h.copied, hleft]
    cases he : e.leaves with
    | true =>
      obtain ⟨hcopies, hcleared, -⟩ := h.leave hf refuses he
      by_cases hc : c.form.copied = true
      · obtain ⟨hl, hk⟩ := hkeys.1 hc
        exact .inr (.inr ⟨hl, rfl, hk, hcleared, hcopies.trans (by rw [if_pos hc])⟩)
      · exact .inl (hcopies.trans (by rw [if_neg hc, List.append_nil]))
    | false =>
      rcases h.stay hf refuses he with ⟨hcopies, -⟩ | ⟨key, hq, hheld, hcopied, hcopies, -⟩
      · exact .inl hcopies
      · exact .inr (.inl ⟨key, hleft.symm.trans hq, rfl, hheld,
          (hf.stepWhile refuses e).2.length key hheld, hcopied, hcopies⟩)

/-- A copy that is refused, one that is taken, and then the form is left twice with another try to copy in
between. -/
theorem clipboard_run_twice :
    let m : Memory := ⟨[⟨List.replicate 32 7, false, 0⟩]⟩
    let s : Session := ⟨some 0, none⟩
    let start : Custody := ⟨{ Form.new ⟨List.replicate 16 1, none, 0, false⟩ 1 .working
      (fun _ => .ok ()) with memory := m, session := s, clock := 0 }, [], []⟩
    let turns : List (Bool × Form.Event) :=
      [(true, .copy), (false, .copy), (false, .quit), (false, .copy), (false, .unmount)]
    Session.Sound m s ∧ (start.runWhile turns).form.copied = false ∧
      (start.runWhile turns).form.clipboard.copies = [(List.replicate 32 ['0', '7']).flatten, []] := by
  intro m s start turns
  have hs : Session.Sound m s := fun b hb => by
    obtain rfl : 0 = b := Option.some.inj hb
    exact ⟨Nat.zero_lt_one, rfl⟩
  have hlength : ∀ key, s.held = some key → (m.bytes key).length = 32 := fun b hb => by
    obtain rfl : 0 = b := Option.some.inj hb
    rfl
  obtain ⟨keys, -, ⟨hbefore, -⟩, ⟨hcopies, hcopied⟩, -⟩ :=
    clipboard_run ⟨List.replicate 16 1, none, 0, false⟩ 1 .working rfl (fun _ => .ok ()) 0 hs hlength
      turns
  have hkeys : keys = [(List.replicate 32 ['0', '7']).flatten] := hbefore.symm.trans (by decide +kernel)
  refine ⟨hs, ?_, hcopies.trans ?_⟩
  · refine Bool.eq_false_iff.2 fun hc => ?_
    exact nomatch (hcopied.1 hc).1
  · rw [hkeys]
    rfl

end Custody

end KeyRecovery
