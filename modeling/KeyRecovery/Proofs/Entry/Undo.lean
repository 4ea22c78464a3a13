import KeyRecovery.Proofs.Entry.GoodBlocks
import KeyRecovery.Proofs.Entry.Refinement
import KeyRecovery.Proofs.Password.Rejection

/-!
# Taking an entry back

Every erasure takes back one digit, also where it reopens a block, so an entry can be taken back to its start
and a password typed from there.

* `Machine.entered` : how many digits a machine holds;
* `Machine.Takes` : every character of a text is taken by the machine as it stands then;
* `Tracks.erased` : erasures shorten the line by as many digits;
* `typed_erasers_eq_start` : with as many erasures as digits, a machine is at its start again;
* `holding_flatten_take` : good blocks are typed from there without a rejection;
* `mistakes_undone` : so whatever was done before, unless it ended the entry, can be undone.
-/

namespace KeyRecovery.Machine

def entered (m : Machine) : Nat := 6 * m.blocks.length + m.digits.length

theorem entered_eq_zero_iff {m : Machine} : m.entered = 0 ↔ m.blocks = [] ∧ m.digits = [] := by
  simp only [entered, ← List.length_eq_zero_iff]
  omega

/-- Room for another block is room for 47 digits at most. -/
theorem Sound.entered_le {m : Machine} (h : Sound m) (hd : m.done = false) : m.entered ≤ 47 := by
  have hroom := h.room hd
  have hcursor := h.cursor
  simp only [entered, Password.blockCount, Block.width] at *
  omega

def Takes (m : Machine) (cs : List Char) : Prop :=
  ∀ j c, cs[j]? = some c → (m.typed (cs.take j)).feed [c] = .ok (m.typed (cs.take (j + 1)))

theorem takes_of_taking {m : Machine} {cs : List Char}
    (h : ∀ j < cs.length, (m.typed (cs.take j)).done = false) : m.Takes cs := by
  intro j c hc
  rw [feed_eq (h j (List.getElem?_eq_some_iff.1 hc).1), typed_take_succ m hc]

/-! ## Erasing -/

theorem Tracks.entered {m : Machine} {l : Line} (h : Tracks m l) : m.entered = l.digits.length := by
  rw [h.length_digits, Machine.entered, Block.width, Nat.mul_comm]

theorem stroke_eraser {m : Machine} (hd : m.done = false) {c : Char} (hc : c ∈ Stroke.erasers) :
    m.stroke c = m.press .erase := by
  rw [stroke_eq hd, Stroke.ofChar_of_mem hc]

section Erasers

variable {m : Machine} {l : Line} (h : Tracks m l) (ht : l.status = .taking) {es : List Char}
  (he : ∀ c ∈ es, c ∈ Stroke.erasers)
include h ht he

theorem Tracks.erased :
    Tracks (m.typed es) ⟨l.digits.take (l.digits.length - es.length), .taking⟩ := by
  induction es generalizing m l with
  | nil =>
    rw [typed_nil, List.length_nil, Nat.sub_zero, List.take_length, ← ht]
    exact h
  | cons c es ih =>
    have hpress := h.press_erase ht
    rw [← stroke_eraser (h.done_eq_false.2 ht) (he c List.mem_cons_self)] at hpress
    have hrest := ih hpress ht fun a ha => he a (List.mem_cons_of_mem c ha)
    have hcut : l.digits.dropLast.take (l.digits.dropLast.length - es.length) =
        l.digits.take (l.digits.length - (es.length + 1)) := by
      rw [List.length_dropLast, List.dropLast_eq_take, List.take_take]
      congr 1
      omega
    exact hcut ▸ hrest

theorem taking_erased : (m.typed es).done = false := (h.erased ht he).done_eq_false.2 rfl

theorem entered_erased : (m.typed es).entered = m.entered - es.length := by
  rw [(h.erased ht he).entered, List.length_take, h.entered]
  omega

theorem takes_erasers : m.Takes es :=
  takes_of_taking fun _ _ => taking_erased h ht fun c hc => he c (List.mem_of_mem_take hc)

/-- The last erasure leaves nothing but digits behind. -/
theorem stage_erased (hne : es ≠ []) :
    (m.typed es).stage = .awaitingDigit ∧ (m.typed es).lastError = none := by
  obtain ⟨init, c, rfl⟩ := (List.eq_nil_or_concat es).resolve_left hne
  rw [List.concat_eq_append] at he ⊢
  have htaking := taking_erased h ht fun a ha => he a (List.mem_append_left _ ha)
  rw [typed_append, typed_cons, typed_nil, stroke_eraser htaking (he c (by simp))]
  exact ⟨rfl, rfl⟩

theorem typed_erasers_eq_start (hne : es ≠ []) (hlen : m.entered ≤ es.length) : m.typed es = start := by
  obtain ⟨hstage, hlast⟩ := stage_erased h ht he hne
  have hzero : (m.typed es).entered = 0 := by
    rw [entered_erased h ht he]
    omega
  obtain ⟨hblocks, hdigits⟩ := entered_eq_zero_iff.1 hzero
  generalize m.typed es = n at *
  cases n
  simp_all [start]

end Erasers

/-! ## Typing again -/

theorem holding_flatten_take {bs : List (List Char)} (hgood : ∀ b ∈ bs, Block.fault? b = none)
    (hcount : bs.length ≤ Password.blockCount) (j : Nat) :
    Holding (start.typed (bs.flatten.take j)) (bs.flatten.take j) := by
  have hdigit : ∀ c ∈ bs.flatten.take j, c.isDigit = true := by
    intro c hc
    obtain ⟨b, hb, hcb⟩ := List.mem_flatten.1 (List.mem_of_mem_take hc)
    exact Block.isDigit_of_fault?_eq_none (hgood b hb) c hcb
  have hdigits : (bs.flatten.take j).filter Char.isDigit = bs.flatten.take j := List.filter_eq_self.2 hdigit
  have hkept : ∀ c ∈ bs.flatten.take j, c ∉ Stroke.erasers :=
    fun c hc => (Stroke.not_mem_of_isDigit (hdigit c hc)).1
  have hpre : [] ++ (bs.flatten.take j).filter Char.isDigit <+: bs.flatten := by
    rw [hdigits]
    exact List.take_prefix j _
  have h := holding_start.afterText hgood hcount hkept hpre
  rwa [hdigits] at h

section Eight

variable {bs : List (List Char)} (hgood : ∀ b ∈ bs, Block.fault? b = none)
  (h8 : bs.length = Password.blockCount)
include hgood h8

theorem length_flatten_eight : bs.flatten.length = 48 := by
  rw [Pieces.length_flatten fun b hb => Block.length_of_fault?_eq_none (hgood b hb), h8]
  rfl

/-- Eight good blocks are complete with their last digit and not before. -/
theorem stage_flatten_take {j : Nat} :
    (start.typed (bs.flatten.take j)).stage = .allBlocksValid ↔ 48 ≤ j := by
  rw [(holding_flatten_take hgood (Nat.le_of_eq h8) j).complete_iff, List.length_take,
    length_flatten_eight hgood h8]
  omega

theorem takes_flatten : start.Takes bs.flatten := by
  refine takes_of_taking fun j hj => done_eq_false_iff.2 ⟨?_, ?_⟩
  · rw [Ne, stage_flatten_take hgood h8, ← length_flatten_eight hgood h8]
    exact Nat.not_le_of_lt hj
  · exact (holding_flatten_take hgood (Nat.le_of_eq h8) j).alive

theorem password?_flatten : (start.typed bs.flatten).password? = some (Password.join bs) := by
  have hstage := (stage_flatten_take hgood h8).2 (Nat.le_of_eq (length_flatten_eight hgood h8).symm)
  have hholds := holding_flatten_take hgood (Nat.le_of_eq h8) bs.flatten.length
  rw [List.take_length] at hstage hholds
  rw [password?_eq_some_iff.2 ⟨hstage, rfl⟩,
    hholds.blocks_eq (fun b hb => Block.length_of_fault?_eq_none (hgood b hb)) h8]

end Eight

/-- **Any mistake can be undone.** As long as an entry has not ended, erasures are taken, and each takes one
digit away: what is left is empty just if there were as many of them as digits, of which there are 47 at most.
After 47 erasures the machine is at its start again, whatever was typed, rejected and erased before. The 48
digits of an accepted password are then taken, with no rejection, and complete it with hyphens between its
blocks. -/
theorem mistakes_undone (actions : List Action) (hv : (after actions).stage ≠ .allBlocksValid)
    (ha : (after actions).stage ≠ .aborted) {es : List Char} (he : ∀ c ∈ es, c ∈ Stroke.erasers) :
    let m := after actions
    m.Takes es ∧
    (m.typed es).entered = m.entered - es.length ∧
    ((m.typed es).blocks = [] ∧ (m.typed es).digits = [] ↔ m.entered ≤ es.length) ∧
    m.entered ≤ 47 ∧
    (47 ≤ es.length → m.typed es = start ∧
      ∀ p ns, Password.shortValues p = .ok ns →
        let ds := (Password.split p).flatten
        (ds.length = 48 ∧ ∀ i < 8, ∀ j < 6, ds[i * 6 + j]? = p[i * 7 + j]?) ∧
        (m.typed es).Takes ds ∧
        (∀ j, ((m.typed es).typed (ds.take j)).lastError = none) ∧
        ((m.typed es).typed ds).stage = .allBlocksValid ∧
        ((m.typed es).typed ds).password? = some (Password.join (Password.split p))) := by
  intro m
  have h := tracks_after actions
  have hd := done_eq_false_iff.2 ⟨hv, ha⟩
  have ht := h.done_eq_false.1 hd
  have hle := h.entered_le hd
  refine ⟨takes_erasers h ht he, entered_erased h ht he, ?_, hle, fun hlen => ?_⟩
  · rw [← entered_eq_zero_iff, entered_erased h ht he]
    exact Nat.sub_eq_zero_iff_le
  · have hne : es ≠ [] := List.ne_nil_of_length_pos (Nat.lt_of_lt_of_le (by decide) hlen)
    have hstart : m.typed es = start := typed_erasers_eq_start h ht he hne (Nat.le_trans hle hlen)
    refine ⟨hstart, fun p ns hp => ?_⟩
    have hgood := Password.good_of_mem_split hp
    have h8 := Password.length_split p
    have hw := Password.length_of_mem_split (Password.shortValues_eq_ok_iff.1 hp).1
    rw [hstart]
    refine ⟨⟨length_flatten_eight hgood h8, fun i hi j hj => ?_⟩, takes_flatten hgood h8,
      fun j => (holding_flatten_take hgood (Nat.le_of_eq h8) j).kept, ?_, password?_flatten hgood h8⟩
    · have hi : i < (Password.split p).length := h8.symm ▸ hi
      have hdigit := Pieces.getElem?_flatten hw [] hi hj
      rw [List.append_nil, Password.getElem?_split p hi hj] at hdigit
      exact hdigit
    · exact (password?_eq_some_iff.1 (password?_flatten hgood h8)).1

/-- Two blocks, a rejected one and five more digits make seventeen, which sixteen erasures do not empty; after
47 erasures of both kinds a password that is given with points between its blocks is typed. -/
theorem mistakes_undone_rejected :
    let m := after (typing "00001172088500001212345".toList)
    let es := List.replicate 23 '\x08' ++ List.replicate 24 '\x7f'
    let p := "135795.001100.597531.000077.720885.011000.046662.344707".toList
    ¬ ((m.typed (es.take 16)).blocks = [] ∧ (m.typed (es.take 16)).digits = []) ∧
      ((m.typed (es.take 17)).blocks = [] ∧ (m.typed (es.take 17)).digits = []) ∧ m.typed es = start ∧
      ((m.typed es).typed (Password.split p).flatten).password? =
        some "135795-001100-597531-000077-720885-011000-046662-344707".toList := by
  intro m es p
  have hv : m.stage ≠ .allBlocksValid := by decide +kernel
  have ha : m.stage ≠ .aborted := by decide +kernel
  have hentered : m.entered = 17 := by decide +kernel
  have he : ∀ c ∈ es, c ∈ Stroke.erasers := by
    intro c hc
    rcases List.mem_append.1 hc with hc | hc <;> rw [List.eq_of_mem_replicate hc] <;> decide
  have hp : Password.shortValues p = .ok [12345, 100, 54321, 7, 65535, 1000, 4242, 31337] := by
    decide +kernel
  have htake (n : Nat) : ∀ c ∈ es.take n, c ∈ Stroke.erasers := fun c hc => he c (List.mem_of_mem_take hc)
  obtain ⟨-, -, hempty, -⟩ := mistakes_undone _ hv ha (htake 16)
  obtain ⟨-, -, hempty', -⟩ := mistakes_undone _ hv ha (htake 17)
  obtain ⟨-, -, -, -, hall⟩ := mistakes_undone _ hv ha he
  obtain ⟨hstart, hagain⟩ := hall (by decide)
  obtain ⟨-, -, -, -, hpassword⟩ := hagain p _ hp
  refine ⟨mt hempty.1 ?_, hempty'.2 ?_, hstart, ?_⟩
  · rw [show (after _).entered = 17 from hentered]
    decide
  · rw [show (after _).entered = 17 from hentered]
    decide
  · rw [hpassword]
    decide +kernel

end KeyRecovery.Machine
