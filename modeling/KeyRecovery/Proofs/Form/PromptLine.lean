import KeyRecovery.Proofs.Entry.Shown
import KeyRecovery.Proofs.Form.Keys

/-!
# The prompt line of the form

The prompt line is a password with underscores for the digits to come: eight groups of six places with hyphens
between them.

* `Form.groups` : the groups, which are the blocks, the digits in progress with the places left of their block,
  and empty groups;
* `Form.promptLine_eq_join`, `Form.flatten_groups` : the prompt line is these groups joined, and what stands in
  them is what was typed, and underscores;
* `Form.LineShape`, `Form.lineShape_promptLine` : so the line has its 55 places, whatever was typed;
* `Form.Displays` : the screen shows the prompt line of the present machine;
* `Displays.feed`, `Displays.pressed` : so it does after input, and after a key stroke;
* `Form.prompt_line_run` : so the line on the screen has its shape at all times.
-/

namespace KeyRecovery.Form

open Machine (Sound)
open Password (separator)

/-! ## Groups -/

/-- Six places for digits to come. -/
def emptyGroup : List Char := List.replicate Block.width '_'

/-- The digits in progress, and the places left of their block. -/
def openGroup (m : Machine) : List Char := m.digits ++ List.replicate (Block.width - m.cursor) '_'

def groups (m : Machine) : List (List Char) :=
  if m.done then m.blocks
  else m.blocks ++ [openGroup m] ++ List.replicate (Password.blockCount - m.blocks.length - 1) emptyGroup

theorem emptyGroups_eq (n : Nat) : emptyGroups n = (List.replicate n (separator :: emptyGroup)).flatten := rfl

theorem mem_groups {m : Machine} {g : List Char} (hg : g ∈ groups m) :
    g ∈ m.blocks ∨ g = openGroup m ∨ g = emptyGroup := by
  unfold groups at hg
  split at hg
  · exact .inl hg
  · rw [List.mem_append, List.mem_append, List.mem_singleton] at hg
    rcases hg with (hblock | hopen) | hempty
    · exact .inl hblock
    · exact .inr (.inl hopen)
    · exact .inr (.inr (List.eq_of_mem_replicate hempty))

theorem separator_not_mem_places (n : Nat) : separator ∉ List.replicate n '_' := fun hs =>
  absurd (List.eq_of_mem_replicate hs) (by decide)

section Groups

variable {m : Machine} (h : Sound m)
include h

theorem width_groups : ∀ g ∈ groups m, g.length = Block.width := by
  intro g hg
  rcases mem_groups hg with hb | rfl | rfl
  · exact h.width g hb
  · have hcursor := h.cursor
    rw [openGroup, List.length_append, List.length_replicate, Machine.cursor]
    omega
  · rfl

/-- No hyphen stands in a group. -/
theorem separator_not_mem_groups : ∀ g ∈ groups m, separator ∉ g := by
  intro g hg
  rcases mem_groups hg with hb | rfl | rfl
  · exact h.separator_not_mem g hb
  · intro hs
    rcases List.mem_append.1 hs with hs | hs
    · exact absurd (h.typed _ hs) (by decide)
    · exact separator_not_mem_places _ hs
  · exact separator_not_mem_places _

variable (ha : m.stage ≠ .aborted)
include ha

/-- An entry that ended without being given up has its eight blocks. -/
theorem full_of_done (hd : m.done = true) : m.blocks.length = Password.blockCount ∧ m.digits = [] := by
  have h8 := h.valid ((Machine.done_eq_true_iff.1 hd).resolve_right ha)
  exact ⟨h8, (h.full h8).1⟩

theorem length_groups : (groups m).length = Password.blockCount := by
  unfold groups
  split
  · next hd => exact (full_of_done h ha hd).1
  · next hd =>
    have hroom := h.room (Bool.eq_false_iff.2 hd)
    simp only [List.length_append, List.length_singleton, List.length_replicate]
    omega

theorem promptLine_eq_join : promptLine m = Password.join (groups m) := by
  unfold promptLine groups
  rw [Machine.line_eq, List.nil_append]
  split
  · next hd =>
    obtain ⟨h8, hdigits⟩ := full_of_done h ha hd
    simp [Machine.shown, Machine.committed, hdigits, h8, emptyGroups]
  · next hd =>
    rw [Password.join_append_replicate (by simp), Password.join_concat, ← emptyGroups_eq,
      Machine.shown_of_room (h.room (Bool.eq_false_iff.2 hd)), List.append_assoc _ m.digits, openGroup]

theorem flatten_groups : (groups m).flatten = m.blocks.flatten ++ m.digits ++
    List.replicate (48 - (m.blocks.flatten ++ m.digits).length) '_' := by
  have hlen : (m.blocks.flatten ++ m.digits).length = m.blocks.length * Block.width + m.digits.length := by
    rw [List.length_append, Pieces.length_flatten h.width]
  unfold groups
  split
  · next hd =>
    obtain ⟨h8, hdigits⟩ := full_of_done h ha hd
    simp [hdigits, Pieces.length_flatten h.width, h8, Password.blockCount, Block.width]
  · next hd =>
    have hroom := h.room (Bool.eq_false_iff.2 hd)
    have hcursor := h.cursor
    have hcount : 48 - (m.blocks.flatten ++ m.digits).length =
        Block.width - m.cursor + (Password.blockCount - m.blocks.length - 1) * Block.width := by
      rw [hlen, Machine.cursor]
      simp only [Password.blockCount, Block.width] at hroom hcursor ⊢
      omega
    rw [hcount, List.flatten_append, List.flatten_concat, emptyGroup, List.flatten_replicate_replicate, openGroup,
      ← List.replicate_append_replicate, List.append_assoc, List.append_assoc, List.append_assoc]

end Groups

/-! ## Shape -/

/-- The shape of a prompt line for some typed digits. -/
structure LineShape (prompt typed : List Char) : Prop where
  length : prompt.length = 55
  /-- Hyphens stand between the blocks and nowhere else. -/
  hyphens : ∀ i < 55, prompt[i]? = some '-' ↔ i ∈ [6, 13, 20, 27, 34, 41, 48]
  /-- The other places hold the digits, in order, and then underscores. -/
  others : Password.digitPlaces.filterMap (prompt[·]?) = typed ++ List.replicate (48 - typed.length) '_'
  digits : typed.length ≤ 48 ∧ ∀ c ∈ typed, c.isDigit = true

theorem lineShape_promptLine {m : Machine} (h : Sound m) (ha : m.stage ≠ .aborted) :
    LineShape (promptLine m) (m.blocks.flatten ++ m.digits) := by
  have h8 := length_groups h ha
  have hw := width_groups h
  rw [promptLine_eq_join h ha]
  refine ⟨Password.length_join_eight h8 hw,
    fun i hi => Password.getElem?_join_eq_separator_iff h8 hw (separator_not_mem_groups h) hi, ?_, ?_, ?_⟩
  · rw [Password.filterMap_digitPlaces, Password.split_join h8 hw, flatten_groups h ha]
  · have hall := congrArg List.length (flatten_groups h ha)
    rw [Pieces.length_flatten hw, h8, List.length_append, List.length_replicate] at hall
    simp only [Password.blockCount, Block.width] at hall
    omega
  · intro c hc
    rcases List.mem_append.1 hc with hc | hc
    · obtain ⟨b, hb, hcb⟩ := List.mem_flatten.1 hc
      exact Block.isDigit_of_fault?_eq_none (h.good b hb) c hcb
    · exact h.typed c hc

/-! ## The screen -/

/-- The prompt line on the screen. -/
def prompt? (f : Form) : Option (List Char) := f.screen.map Screen.prompt

structure Displays (f : Form) : Prop where
  sound : Sound f.machine
  alive : f.machine.stage ≠ .aborted
  current : f.prompt? = some (promptLine f.machine)

theorem prompt?_reportStroke (f : Form) : f.reportStroke.prompt? = f.prompt? := by
  unfold reportStroke
  split
  · exact Option.map_map _ _ _
  · split
    · exact Option.map_map _ _ _
    · exact Option.map_map _ _ _
    · rfl
    · rfl

/-- What is refreshed shows the line of the present machine, if anything is shown. -/
theorem prompt?_refresh (f : Form) : f.refresh.prompt? = f.prompt?.map fun _ => promptLine f.machine := by
  simp only [prompt?, refresh, Option.map_map, Function.comp_def]

theorem requestKey_prompt?_machine (f : Form) :
    f.requestKey.prompt? = f.prompt? ∧ f.requestKey.machine = f.machine := by
  unfold requestKey
  split <;> exact ⟨rfl, rfl⟩

/-- Input is shown, if anything is. -/
theorem feed_shown {f f' : Form} {text : List Char} (hf : f.feed text = .ok f') :
    f.machine.done = false ∧ f'.machine = f.machine.press (.ofText text) ∧
      f'.prompt? = f.prompt?.map fun _ => promptLine f'.machine := by
  unfold feed at hf
  split at hf
  · cases hf
  · next m hm =>
    obtain rfl := Except.ok.inj hf
    obtain ⟨hd, rfl⟩ := Machine.feed_eq_ok_iff.1 hm
    let g : Form := { f with machine := f.machine.press (.ofText text) }
    have hmachine : g.reportStroke.machine = g.machine := by
      obtain ⟨status, screen, log, hreport⟩ := g.reportStroke_eq
      rw [hreport]
    obtain ⟨hprompt, hkey⟩ := requestKey_prompt?_machine g.reportStroke.refresh
    rw [hprompt, hkey, prompt?_refresh, prompt?_reportStroke]
    exact ⟨hd, hmachine, rfl⟩

namespace Displays

variable {f f' : Form} (h : Displays f)
include h

/-- What leaves machine and prompt line alone. -/
theorem same (hm : f'.machine = f.machine) (hp : f'.prompt? = f.prompt?) : Displays f' :=
  ⟨hm ▸ h.sound, hm ▸ h.alive, by rw [hp, hm, h.current]⟩

theorem feed {text : List Char} (hf : f.feed text = .ok f') : Displays f' := by
  obtain ⟨hd, hm, hp⟩ := feed_shown hf
  refine ⟨?_, ?_, by rw [hp, h.current, Option.map_some]⟩
  · rw [hm]
    exact h.sound.press hd fun c hc => Machine.isDigit_of_ofText hc
  · rw [hm]
    exact Machine.press_stage_ne_aborted _ _ hd

theorem quit : Displays f.quit := by
  obtain ⟨clipboard, log, heq⟩ := f.wipeSecrets_eq
  refine h.same f.left_quit.machine ?_
  rw [Form.quit, heq]
  rfl

theorem copyKey : Displays f.copyKey := by
  obtain ⟨notices, heq | ⟨key, c, -, -, heq⟩⟩ := f.copyKey_cases
  · rw [heq]
    exact h.same rfl rfl
  · rw [heq]
    exact h.same rfl rfl

theorem pressed {e : KeyEvent} (hp : Pressed f e f') : Displays f' := by
  cases hp with
  | left _ => exact h.quit
  | copied _ _ => exact h.copyKey
  | ignored _ _ => exact h
  | typed _ _ _ hf => exact h.feed hf

end Displays

theorem displays_opened {f : Form} (hs : Sound f.machine) (ha : f.machine.stage ≠ .aborted) :
    Displays f.opened := ⟨hs, ha, rfl⟩

/-- The screen shows the line of the present machine, and the line has its shape. -/
structure ShowsLine (f : Form) : Prop where
  current : f.prompt? = some (promptLine f.machine)
  shape : LineShape (promptLine f.machine) (f.machine.blocks.flatten ++ f.machine.digits)

theorem Displays.showsLine {f : Form} (h : Displays f) : ShowsLine f :=
  ⟨h.current, lineShape_promptLine h.sound h.alive⟩

/-- **The prompt line at all times.** A form is set up and mounted, which types the password of the settings
one character after the other, and gets key strokes. After every one of these the screen shows the line of the
present machine: 55 characters with hyphens at the seven places between the blocks, and at the other 48 places
the digits of the committed blocks, the digits in progress, and nothing but underscores behind them. -/
theorem prompt_line_run (settings : Settings) (rounds : Nat) (clipboard : Clipboard)
    (display : List Char → Except String Unit) (m : Memory) (s : Session) (now : Float)
    (events : List KeyEvent) :
    let start : Form :=
      { new settings rounds clipboard display with memory := m, session := s, clock := now }
    (∀ j, ∃ f, start.opened.feedAll ((settings.password.getD []).take j) = .ok f ∧ f.ShowsLine) ∧
      ∃ f g, start.mount = .ok f ∧ f.pressAll events = .ok g ∧ g.ShowsLine := by
  intro start
  have hopened : Displays start.opened := displays_opened Machine.sound_start nofun
  have htyped (text : List Char) : ∃ f, start.opened.feedAll text = .ok f ∧ Displays f :=
    feedAll_induction (fun hf h => h.feed hf) hopened text
  refine ⟨fun j => ?_, ?_⟩
  · obtain ⟨f, hf, h⟩ := htyped ((settings.password.getD []).take j)
    exact ⟨f, hf, h.showsLine⟩
  · obtain ⟨f, hf, h⟩ := htyped (settings.password.getD [])
    obtain ⟨g, hg, h⟩ := pressAll_induction (fun hp h => h.pressed hp) h events
    exact ⟨f, g, start.mount_eq.trans hf, hg, h.showsLine⟩

example : promptLine (Machine.after (Machine.typing "000011-72".toList)) =
    "000011-72____-______-______-______-______-______-______".toList := by decide +kernel

end KeyRecovery.Form
