import KeyRecovery.Entry.Row
import KeyRecovery.Proofs.Entry.Dialogue
import Mathlib.Data.List.GetD
import Mathlib.Data.List.Induction

/-!
# What stands on the row

* `Row.write_return` : a text written from the margin on, cell by cell;
* `Row.holds_write` : it is held by a row that is blank behind it;
* `holds_redraw` : a row that holds the line holds the line after a stroke once that is drawn;
* `holds_drawn`, `holds_from_start` : and so after any typed characters;
* `run_cut` : the dialogue as it stands before a reading;
* `row_holds` : whenever a dialogue reads, the row holds the prompt and what was entered.
-/

namespace KeyRecovery

namespace Row

/-- A text that stays on its row. -/
def Plain (text : List Char) : Prop := ∀ c ∈ text, c ≠ '\r' ∧ c ≠ '\n'

theorem Plain.append {s t : List Char} (hs : Plain s) (ht : Plain t) : Plain (s ++ t) := fun c hc =>
  (List.mem_append.1 hc).elim (hs c) (ht c)

theorem write_return {text : List Char} (h : Plain text) (r : Row) :
    r.write ('\r' :: text) = ⟨fun i => text.getD i (r.cell i), text.length⟩ := by
  induction text using List.reverseRecOn with
  | nil => rfl
  | append_singleton text c ih =>
    obtain ⟨hr, hn⟩ := h c (by simp)
    rw [← List.cons_append, write_append, ih fun a ha => h a (List.mem_append_left _ ha)]
    show put _ c = _
    rw [put, if_neg hr, if_neg hn, List.length_append, List.length_singleton, Row.mk.injEq]
    refine ⟨funext fun i => ?_, rfl⟩
    show (if i = text.length then c else text.getD i (r.cell i)) = _
    rcases Nat.lt_trichotomy i text.length with hi | rfl | hi
    · rw [if_neg (Nat.ne_of_lt hi), List.getD_append _ _ _ _ hi]
    · simp
    · rw [if_neg (Nat.ne_of_gt hi), List.getD_eq_default _ _ (Nat.le_of_lt hi),
        List.getD_eq_default _ _ (List.length_append ▸ hi)]

theorem holds_write {text : List Char} (h : Plain text) {r : Row}
    (hr : ∀ i, text.length ≤ i → r.cell i = ' ') : (r.write ('\r' :: text)).Holds text := by
  rw [write_return h]
  refine ⟨fun i => ?_, rfl⟩
  show text.getD i (r.cell i) = text.getD i ' '
  rcases Nat.lt_or_ge i text.length with hi | hi
  · rw [List.getD_eq_getElem _ _ hi, List.getD_eq_getElem _ _ hi]
  · rw [hr i hi]

theorem Holds.blank_behind {text : List Char} {r : Row} (h : r.Holds text) {i : Nat}
    (hi : text.length ≤ i) : r.cell i = ' ' := by
  rw [h.1, List.getD_eq_default _ _ hi]

/-- A text that ends a row leaves a blank one. -/
theorem write_newline (r : Row) (text : List Char) : r.write (text ++ ['\r', '\n']) = blank := by
  rw [write_append]
  rfl

theorem draw_append (r : Row) (xs ys : List Dialogue.Event) :
    r.draw (xs ++ ys) = (r.draw xs).draw ys := by
  rw [draw, Dialogue.output, List.flatMap_append, write_append]
  rfl

theorem draw_write (r : Row) (text : List Char) : r.draw [.write text] = r.write text := by
  rw [draw, Dialogue.output, List.flatMap_singleton]

theorem draw_cons (r : Row) (e : Dialogue.Event) (es : List Dialogue.Event) :
    r.draw (e :: es) = (r.draw [e]).draw es := r.draw_append [e] es

theorem draw_nil (r : Row) : r.draw [] = r := rfl

end Row

namespace Dialogue

open Source (Delivers afterReads)
open Machine (start)
open Row (Plain)

section Drawn

variable {text : List Char} {m : Machine}

theorem plain_shown (h : m.Sound) (ht : Plain text) : Plain (text ++ m.shown) := by
  refine ht.append fun c hc => ⟨?_, ?_⟩ <;> rintro rfl <;>
    exact h.not_mem_shown (by decide) (by decide) hc

/-- After a refusal the row is a new one. -/
theorem draw_refusal (r : Row) (e : BlockError) : r.draw (refusal e) = Row.blank :=
  r.write_newline "\r\nInvalid block.".toList

/-- Two blanks behind the line cover what an erasure took away. -/
theorem holds_erased (h : m.Sound) (ht : Plain text) {r : Row} {rest : List Char}
    (hr : r.Holds (text ++ m.shown ++ rest)) (hrest : rest.length ≤ 2) :
    ((r.write (m.line ('\r' :: text) ++ [' ', ' '])).write (m.line ('\r' :: text))).Holds
      (text ++ m.shown) := by
  have hp := plain_shown h ht
  have hblanks : Plain [' ', ' '] := by simp [Plain]
  rw [Machine.line_eq, List.cons_append, List.cons_append, Row.write_return (hp.append hblanks)]
  refine Row.holds_write hp fun i hi => ?_
  show (text ++ m.shown ++ [' ', ' ']).getD i (r.cell i) = ' '
  rw [List.getD_append_right _ _ _ _ hi]
  rcases Nat.lt_or_ge (i - (text ++ m.shown).length) 2 with hlt | hge
  · obtain h0 | h1 : i - (text ++ m.shown).length = 0 ∨ i - (text ++ m.shown).length = 1 := by omega
    · rw [h0]; rfl
    · rw [h1]; rfl
  · rw [List.getD_eq_default _ _ hge]
    refine hr.blank_behind ?_
    rw [List.length_append]
    omega

theorem holds_redraw (h : m.Sound) (hd : m.done = false) (ht : Plain text) {c : Char}
    (hv : (m.stroke c).stage ≠ .allBlocksValid) {r : Row} (hr : r.Holds (text ++ m.shown)) :
    (r.draw (redraw ('\r' :: text) c m (m.stroke c))).Holds (text ++ (m.stroke c).shown) := by
  have hp := plain_shown (h.stroke c) ht
  cases hu : unchanged m (m.stroke c) with
  | true =>
    rw [redraw_unchanged hu, Row.draw_nil, h.shown_unchanged hd hv hu]
    exact hr
  | false =>
    rw [redraw_changed hu, if_neg hv, List.append_nil, Row.draw_append, Row.draw_append,
      Row.draw_write]
    cases hlast : (m.stroke c).lastError with
    | some e =>
      rw [Option.toList_some, List.flatMap_singleton, draw_refusal, Machine.line_eq]
      exact Row.holds_write hp fun _ _ => rfl
    | none =>
      rw [Option.toList_none, List.flatMap_nil, Row.draw_nil]
      rcases h.shown_stroke hd hv with ⟨e, he⟩ | ⟨hc, rest, hrest, hlen⟩ | ⟨hc, rest, hrest⟩
      · rw [he] at hlast
        cases hlast
      · rw [hrest, ← List.append_assoc] at hr
        rw [if_pos hc, Row.draw_write]
        exact holds_erased (h.stroke c) ht hr hlen
      · rw [if_neg hc, Row.draw_nil, Machine.line_eq]
        refine Row.holds_write hp fun i hi => hr.blank_behind ?_
        rw [hrest, ← List.append_assoc, List.length_append] at hi
        omega

theorem holds_drawn (ht : Plain text) {cs : List Char} (h : m.Sound)
    (hd : ∀ j ≤ cs.length, (m.typed (cs.take j)).done = false) {r : Row}
    (hr : r.Holds (text ++ m.shown)) :
    (r.draw (drawn ('\r' :: text) m cs)).Holds (text ++ (m.typed cs).shown) := by
  induction cs generalizing m r with
  | nil => exact hr
  | cons c cs ih =>
    have hm : m.done = false := hd 0 (Nat.zero_le _)
    have hn : (m.stroke c).done = false := hd 1 (Nat.succ_le_succ (Nat.zero_le _))
    rw [drawn, Row.draw_append, Machine.typed_cons]
    exact ih (h.stroke c) (fun j hj => hd (j + 1) (Nat.succ_le_succ hj))
      (holds_redraw h hm ht ((Machine.done_stroke hm c).1 hn) hr)

theorem holds_from_start (ht : Plain text) {cs : List Char}
    (hd : ∀ j ≤ cs.length, (start.typed (cs.take j)).done = false) :
    (Row.blank.draw (.write ('\r' :: text) :: drawn ('\r' :: text) start cs)).Holds
      (text ++ (start.typed cs).shown) := by
  have hprompt : (Row.blank.write ('\r' :: text)).Holds (text ++ start.shown) := by
    rw [Machine.shown_start, List.append_nil]
    exact Row.holds_write ht fun _ _ => rfl
  rw [Row.draw_cons, Row.draw_write]
  exact holds_drawn ht Machine.sound_start hd hprompt

end Drawn

section Cut

variable {σ : Type} [Source σ] {s : σ} {prompt cs : List Char} {fault : Option ReadError} {d k : Nat}

theorem exists_take_succ (cs : List Char) (hk : k ≤ d) : ∃ rest, cs.take (d + 1) = cs.take k ++ rest := by
  refine ⟨(cs.take (d + 1)).drop k, ?_⟩
  have htake := List.take_append_drop k (cs.take (d + 1))
  rw [List.take_take, Nat.min_eq_left (by omega)] at htake
  exact htake.symm

theorem run_cut (h : Delivers s cs fault) (hlaw : Lawful prompt cs fault s d (run prompt s))
    (hk : k ≤ d) (e : ReadError) :
    let r := run prompt (⟨s, k, e⟩ : Interrupted σ)
    r.result = .error (.read e) ∧ r.machine = start.typed (cs.take k) ∧
      r.events = .write prompt :: drawn prompt start (cs.take k) ∧
      r.events <+: (run prompt s).events := by
  intro r
  have hkcs : k ≤ cs.length := Nat.le_trans hk hlaw.decides.le
  have hlen : (cs.take k).length = k := List.length_take_of_le hkcs
  have hcut := Interrupted.delivers h k e
  rw [if_pos hkcs] at hcut
  obtain ⟨k', hcutlaw⟩ := exists_lawful prompt hcut
  obtain rfl : k' = k := hcutlaw.decides.unique (hlaw.decides.cut hk)
  have hresult : r.result = .error (.read e) := hcutlaw.ending.eq_read (Nat.le_of_eq hlen)
  have hmachine := hcutlaw.standing e hresult
  rw [List.take_take, Nat.min_self] at hmachine
  have hseen := hcutlaw.seen
  rw [List.take_of_length_le (by omega)] at hseen
  refine ⟨hresult, hmachine, hseen, ?_⟩
  obtain ⟨rest, hrest⟩ := exists_take_succ cs hk
  rw [show r.events = _ from hseen, hlaw.seen, hrest, drawn_append]
  exact ⟨_, rfl⟩

end Cut

/-- **The row shows what was entered.** On a row that is blank at first, with a prompt that begins at the
margin and stays on its row: whenever a dialogue reads, the row holds the prompt, the committed blocks
and the digits in progress, with blanks behind them and the cursor in front of the blanks. What stands
there before reading `k` is what is there when that reading fails. -/
theorem row_holds {text : List Char} (ht : ∀ c ∈ text, c ≠ '\r' ∧ c ≠ '\n') {σ : Type} [Source σ]
    {s : σ} {cs : List Char} {fault : Option ReadError} (h : Delivers s cs fault) :
    ∃ d, Decides start cs d ∧
      (run ('\r' :: text) s).source = (Source.close (afterReads s (d + 1))).2 ∧ ∀ k ≤ d, ∀ e,
      let r := run ('\r' :: text) (⟨s, k, e⟩ : Interrupted σ)
      r.result = .error (.read e) ∧ r.events <+: (run ('\r' :: text) s).events ∧
      r.machine = start.typed (cs.take k) ∧
      (Row.blank.draw r.events).Holds (text ++ r.machine.committed ++ r.machine.digits) := by
  obtain ⟨d, hlaw⟩ := exists_lawful ('\r' :: text) h
  refine ⟨d, hlaw.decides, hlaw.consumed, fun k hk e => ?_⟩
  obtain ⟨hresult, hmachine, hseen, hpart⟩ := run_cut h hlaw hk e
  have htaking : ∀ j ≤ (cs.take k).length, (start.typed ((cs.take k).take j)).done = false := by
    intro j hj
    rw [List.length_take] at hj
    rw [List.take_take, Nat.min_eq_left (by omega)]
    exact hlaw.taking j (by omega)
  refine ⟨hresult, hpart, hmachine, ?_⟩
  rw [hseen, hmachine, List.append_assoc]
  exact holds_from_start ht htaking

/-- A block, a digit more, and two erasures, the second of which reopens the block. -/
theorem row_holds_reopened :
    let text := "Password: ".toList
    let typed := "0000117\x7f\x7f".toList
    let r := run ('\r' :: text) (⟨⟨typed, false⟩, 9, .stream "lost"⟩ : Interrupted Script)
    (∀ c ∈ text, c ≠ '\r' ∧ c ≠ '\n') ∧ r.result = .error (.read (.stream "lost")) ∧
      (Row.blank.draw r.events).Holds (text ++ "00001".toList) := by
  intro text typed r
  have ht : ∀ c ∈ text, c ≠ '\r' ∧ c ≠ '\n' := by
    have hall : (text.all fun c => c ≠ '\r' ∧ c ≠ '\n') = true := by decide
    exact fun c hc => of_decide_eq_true (List.all_eq_true.1 hall c hc)
  obtain ⟨d, hd, -, hrow⟩ := row_holds ht (Script.delivers typed)
  obtain rfl : d = 9 := hd.unique (by decide +kernel)
  obtain ⟨hresult, -, hmachine, hholds⟩ := hrow 9 (Nat.le_refl 9) (.stream "lost")
  have hshown : (start.typed (typed.take 9)).committed ++ (start.typed (typed.take 9)).digits =
      "00001".toList := by decide +kernel
  rw [hmachine, List.append_assoc, hshown] at hholds
  exact ⟨ht, hresult, hholds⟩

end Dialogue

end KeyRecovery
