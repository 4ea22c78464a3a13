import KeyRecovery.Entry.Terminal
import Mathlib.Data.List.Basic

/-!
# What sources deliver

* `Source.afterReads s n` : source `s` after `n` reads;
* `Source.Delivers s cs fault` : reading `s` gives the characters `cs` one by one, and then the end, or the
  error `fault`;
* `Script.delivers`, `Terminal.Offers.delivers` : given texts, and bytes that wait on an open reader, are
  delivered;
* `Interrupted.delivers` : a source of which one read fails delivers what comes before that read;
* `Script.close_after`, `Terminal.Offers.close_after`, `Interrupted.close_after` : closing after some reads.
-/

namespace KeyRecovery

namespace Source

variable {σ : Type} [Source σ]

def afterReads (s : σ) : Nat → σ
  | 0 => s
  | n + 1 => afterReads (read s).2 n

/-- The answer of a read behind the last character. -/
def lastAnswer : Option ReadError → Except ReadError (Option Char)
  | none => .ok none
  | some e => .error e

/-- Reading gives some characters one by one, and then the end or an error. -/
structure Delivers (s : σ) (cs : List Char) (fault : Option ReadError) : Prop where
  chars : ∀ i c, cs[i]? = some c → (read (afterReads s i)).1 = .ok (some c)
  last : (read (afterReads s cs.length)).1 = lastAnswer fault

theorem Delivers.tail {s : σ} {c : Char} {cs : List Char} {fault : Option ReadError}
    (h : Delivers s (c :: cs) fault) : Delivers (read s).2 cs fault :=
  ⟨fun i d hd => h.chars (i + 1) d hd, h.last⟩

end Source

open Source (afterReads Delivers)

/-! ## Scripts -/

namespace Script

theorem after_eq (cs : List Char) (k : Nat) :
    afterReads (⟨cs, false⟩ : Script) k = ⟨cs.drop k, false⟩ := by
  induction k generalizing cs with
  | zero => rfl
  | succ k ih =>
    cases cs with
    | nil =>
      have hk := ih []
      rw [List.drop_nil] at hk ⊢
      exact hk
    | cons c cs => exact ih cs

theorem delivers (cs : List Char) : Delivers (⟨cs, false⟩ : Script) cs none := by
  refine ⟨fun i c hc => ?_, ?_⟩
  · obtain ⟨hi, rfl⟩ := List.getElem?_eq_some_iff.1 hc
    rw [after_eq, List.drop_eq_getElem_cons hi]
    rfl
  · rw [after_eq, List.drop_length]
    rfl

theorem close_after (cs : List Char) (k : Nat) :
    Source.close (afterReads (⟨cs, false⟩ : Script) k) = (.ok (), ⟨cs.drop k, true⟩) := by
  rw [after_eq]
  rfl

end Script

/-! ## Terminals -/

namespace Terminal

variable {α : Type}

/-- Each byte as the character of its number. -/
def latin (bytes : List UInt8) : List Char := bytes.map fun b => Char.ofNat b.toNat

/-- An open reader on a pipe or a terminal where some bytes wait that can be read at once. Only the mode
of a terminal was saved. -/
structure Offers (t : Terminal α) (bytes : List UInt8) : Prop where
  taking : t.closed = false
  kind : t.device.kind = .pipe ∧ t.saved = none ∨ t.device.kind = .terminal
  waiting : t.device.waiting = Typeahead.empty.add bytes

/-- The reader when `k` of these bytes were read; when more was read, a terminal has lost its other end. -/
def left (t : Terminal α) (bytes : List UInt8) (k : Nat) : Terminal α :=
  if k ≤ bytes.length then { t with device.waiting := Typeahead.empty.add (bytes.drop k) }
  else { t with device := Device.sever { t.device with waiting := .empty } }

/-- An open reader on a device where the input has ended. -/
structure Ended (t : Terminal α) : Prop where
  taking : t.closed = false
  kind : t.device.kind = .pipe ∨ t.device.kind = .severed
  waiting : t.device.waiting = .empty

section

variable {t : Terminal α}

theorem read_eq (ht : t.closed = false)
    (hk : t.device.kind = .pipe ∨ t.device.kind = .terminal ∨ t.device.kind = .severed) :
    t.read = (.ok (t.device.waiting.next.1.map fun b => Char.ofNat b.toNat),
      { t with device.waiting := t.device.waiting.next.2 }) := by
  have hr : t.device.kind ≠ .negative ∧ t.device.refusal? = none := by
    rcases hk with hk | hk | hk <;> simp [Device.refusal?, hk]
  simp [Terminal.read, ht, hr.1, hr.2]

namespace Ended

theorem read_eq (h : t.Ended) : t.read = (.ok none, t) := by
  rw [Terminal.read_eq h.taking (h.kind.imp_right .inr), h.waiting]
  obtain ⟨⟨kind, waiting, mode⟩, saved, closed⟩ := t
  obtain rfl : waiting = .empty := h.waiting
  rfl

theorem awaited_eq (h : t.Ended) : t.awaited = t := by
  have hsever : t.device.sever = t.device := if_neg (by rcases h.kind with hk | hk <;> simp [hk])
  unfold awaited
  rw [hsever, ite_self]

theorem afterReads_eq (h : t.Ended) (k : Nat) : afterReads t k = t := by
  induction k with
  | zero => rfl
  | succ k ih =>
    have hread : Source.read t = (.ok none, t) := (congrArg read h.awaited_eq).trans h.read_eq
    rw [afterReads, hread, ih]

end Ended

end

/-- Closing an open reader closes it, and only fails to bring back the mode of what is a terminal no more. -/
theorem close_eq {t : Terminal α} (h : t.closed = false) : t.close.2.closed = true ∧
    t.close.2.device.contents = t.device.contents ∧
    t.close.1 = if t.saved.isSome ∧ t.device.isTerminal = false then .error .gone else .ok () := by
  unfold close
  cases t.saved with
  | none => simp [h, Device.contents]
  | some mode => cases t.device.isTerminal <;> simp [h, Device.contents]

namespace Offers

variable {t : Terminal α} {bytes : List UInt8}

theorem left_zero (h : t.Offers bytes) : t.left bytes 0 = t := by
  obtain ⟨⟨kind, waiting, mode⟩, saved, closed⟩ := t
  obtain rfl : waiting = Typeahead.empty.add bytes := h.waiting
  rfl

theorem left (h : t.Offers bytes) {k : Nat} (hk : k ≤ bytes.length) :
    Offers (t.left bytes k) (bytes.drop k) := by
  rw [Terminal.left, if_pos hk]
  exact ⟨h.taking, h.kind, rfl⟩

theorem read_cons {b : UInt8} (h : t.Offers (b :: bytes)) :
    Source.read t = (.ok (some (Char.ofNat b.toNat)), t.left (b :: bytes) 1) := by
  have hawaited : t.awaited = t := if_neg fun hn => by
    rw [h.waiting] at hn
    exact absurd hn.2 (by simp [Typeahead.empty, Typeahead.add])
  show t.awaited.read = _
  rw [hawaited, Terminal.read_eq h.taking (h.kind.imp And.left .inl), h.waiting, Typeahead.next_add]
  simp [Terminal.left]

/-- The read behind the last byte finds the end of the input. -/
theorem ended (h : t.Offers []) : Ended (t.left [] 1) := by
  refine ⟨h.taking, ?_, ?_⟩ <;>
    rcases h.kind with ⟨hk, -⟩ | hk <;> simp [Terminal.left, Device.sever, Typeahead.empty, hk]

theorem read_nil (h : t.Offers []) : Source.read t = (.ok none, t.left [] 1) := by
  have hawaited : t.awaited = t.left [] 1 := by
    obtain ⟨⟨kind, waiting, mode⟩, saved, closed⟩ := t
    obtain rfl : waiting = .empty := h.waiting
    exact if_pos ⟨h.taking, rfl⟩
  exact (congrArg Terminal.read hawaited).trans h.ended.read_eq

theorem afterReads_eq (h : t.Offers bytes) (k : Nat) : afterReads t k = t.left bytes k := by
  induction k generalizing t bytes with
  | zero => exact h.left_zero.symm
  | succ k ih =>
    cases bytes with
    | nil =>
      rw [afterReads, h.read_nil, h.ended.afterReads_eq]
      simp [Terminal.left]
    | cons b bytes =>
      rw [afterReads, h.read_cons, ih (h.left (Nat.le_add_left 1 _))]
      simp [Terminal.left]

theorem delivers (h : t.Offers bytes) : Delivers t (latin bytes) none := by
  refine ⟨fun i c hc => ?_, ?_⟩
  · obtain ⟨b, hb, rfl⟩ := Option.map_eq_some_iff.1 (List.getElem?_map ▸ hc)
    obtain ⟨hi, rfl⟩ := List.getElem?_eq_some_iff.1 hb
    have hk := h.left (Nat.le_of_lt hi)
    rw [List.drop_eq_getElem_cons hi] at hk
    rw [h.afterReads_eq, hk.read_cons]
  · have hk := h.left (Nat.le_refl bytes.length)
    rw [List.drop_length] at hk
    rw [latin, List.length_map, h.afterReads_eq, hk.read_nil]
    rfl

theorem contents_left (t : Terminal α) (bytes : List UInt8) (k : Nat) :
    (t.left bytes k).device.contents = bytes.drop k := by
  unfold Terminal.left
  split
  · exact Typeahead.contents_add .empty _
  · next hk =>
    rw [List.drop_eq_nil_of_le (by omega)]
    simp only [Device.sever]
    split <;> rfl

/-- What was not read keeps waiting, and the reader is closed. A saved mode cannot be brought back once the
terminal lost its other end, which is when more is read than there is. -/
theorem close_after (h : t.Offers bytes) (k : Nat) :
    (Source.close (afterReads t k)).2.closed = true ∧
      (Source.close (afterReads t k)).2.device.contents = bytes.drop k ∧
      (Source.close (afterReads t k)).1 =
        if t.saved.isSome ∧ bytes.length < k then .error .gone else .ok () := by
  have hclosed : (t.left bytes k).closed = false := by
    unfold Terminal.left
    split <;> exact h.taking
  have hgone : ((t.left bytes k).saved.isSome ∧ (t.left bytes k).device.isTerminal = false) ↔
      t.saved.isSome ∧ bytes.length < k := by
    unfold Terminal.left
    rcases h.kind with ⟨hk, hs⟩ | hk
    · split <;> simp [hs]
    · split
      · next hle => simp [Device.isTerminal, hk, hle]
      · next hlt => simp [Device.isTerminal, Device.sever, hk, Nat.lt_of_not_le hlt]
  obtain ⟨hc, hcontents, hanswer⟩ := close_eq hclosed
  rw [h.afterReads_eq]
  refine ⟨hc, hcontents.trans (contents_left t bytes k), hanswer.trans ?_⟩
  simp only [hgone]

end Offers

/-- A terminal in raw mode on which was typed. -/
theorem offers_raw [Attributes α] (mode : α) (bytes : List UInt8) :
    let t := (on (Device.idle .terminal mode)).opened
    Offers { t with device := t.device.receive bytes } bytes := ⟨rfl, .inr rfl, rfl⟩

end Terminal

/-! ## Failing reads -/

namespace Interrupted

variable {σ : Type} [Source σ]

theorem after_eq (s : σ) (n : Nat) (e : ReadError) (k : Nat) :
    afterReads (⟨s, n, e⟩ : Interrupted σ) k = ⟨afterReads s (min k n), n - k, e⟩ := by
  induction k generalizing s n with
  | zero => rw [Nat.zero_min]; rfl
  | succ k ih =>
    cases n with
    | zero =>
      have hk := ih s 0
      rw [Nat.min_zero, Nat.zero_sub] at hk
      rw [Nat.min_zero, Nat.zero_sub]
      exact hk
    | succ n =>
      rw [Nat.succ_min_succ, Nat.succ_sub_succ]
      exact ih (Source.read s).2 n

theorem close_after (s : σ) (n : Nat) (e : ReadError) (k : Nat) :
    Source.close (afterReads (⟨s, n, e⟩ : Interrupted σ) k) =
      ((Source.close (afterReads s (min k n))).1,
        ⟨(Source.close (afterReads s (min k n))).2, n - k, e⟩) := by
  rw [after_eq]
  rfl

/-- Read up to the failing read, a source delivers the characters before it and the error; if it ends
before, it delivers what it does anyway. -/
theorem delivers {s : σ} {cs : List Char} {fault : Option ReadError} (h : Delivers s cs fault)
    (n : Nat) (e : ReadError) :
    Delivers (⟨s, n, e⟩ : Interrupted σ) (cs.take n) (if n ≤ cs.length then some e else fault) := by
  have hread (k : Nat) (hk : k < n) :
      (Source.read (afterReads (⟨s, n, e⟩ : Interrupted σ) k)).1 = (Source.read (afterReads s k)).1 := by
    rw [after_eq, Nat.min_eq_left (Nat.le_of_lt hk), show n - k = n - k - 1 + 1 by omega]
    rfl
  refine ⟨fun i c hc => ?_, ?_⟩
  · have hi : i < n := by
      have hlt := (List.getElem?_eq_some_iff.1 hc).1
      rw [List.length_take] at hlt
      omega
    rw [List.getElem?_take_of_lt hi] at hc
    rw [hread i hi]
    exact h.chars i c hc
  · rw [List.length_take]
    split
    · next hn =>
      rw [after_eq, Nat.min_eq_left hn, Nat.sub_self]
      rfl
    · next hn =>
      rw [Nat.min_eq_right (by omega), hread _ (by omega)]
      exact h.last

end Interrupted

end KeyRecovery
