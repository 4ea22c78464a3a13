import KeyRecovery.Proofs.Double.Order
import KeyRecovery.Proofs.Session.Visit
import Mathlib.Data.List.Chain

/-!
# A key that was past its time

The limit of a key is looked at when the key is asked for, and not before. Until then the limit of a key that
is past its time can still be moved.

* `PastLimit s now`, `Lapsed s now` : at `now` the clock is past the limit of `s`, at least if it holds a key;
* `Visit.Revives` : a visit moves the limit to where the clock is not past it;
* `lapsed_after` : other visits that give no key leave what has lapsed lapsed;
* `revived_of_key` : so while the clock goes forward, a key that was past its time is not answered unless a key
  was given or the limit so moved;
* `key_extended` : moving the limit far enough is indeed enough.
-/

namespace KeyRecovery.Session

def PastLimit (s : Session) (now : Float) : Prop := ∃ limit, s.expiry = some limit ∧ limit < now

theorem any_expiry_iff {s : Session} {now : Float} : s.expiry.any (· < now) = true ↔ s.PastLimit now := by
  rw [Option.any_eq_true]
  simp only [decide_eq_true_eq]
  rfl

/-- The clock is past the limit of what the session holds, if it holds anything. -/
def Lapsed (s : Session) (now : Float) : Prop := s.held.isSome → s.PastLimit now

def Visit.Revives (v : Visit) (s : Session) : Prop :=
  (∃ amount, v.request = .extend amount) ∧ (v.after s).expiry.isSome ∧ ¬ (v.after s).PastLimit v.now

theorem lapsed_closed (now : Float) : closed.Lapsed now := fun h => nomatch h

theorem Lapsed.mono {s : Session} {now later : Float} (h : s.Lapsed now) (hle : now ≤ later) :
    s.Lapsed later := by
  intro hheld
  obtain ⟨limit, hlimit, hpast⟩ := h hheld
  exact ⟨limit, hlimit, Double.lt_of_lt_of_le hpast hle⟩

theorem lapsed_after {v : Visit} {s : Session} (h : s.Lapsed v.now) (ho : v.offer? = none)
    (hr : ¬ v.Revives s) : (v.after s).Lapsed v.now := by
  rcases v.after_of_no_offer ho s with he | he | ⟨amount, t, hextend, -, -, he⟩
  · rwa [he]
  · rw [he]
    exact lapsed_closed v.now
  · intro _
    by_contra hpast
    exact hr ⟨⟨amount, hextend⟩, by rw [he]; rfl, hpast⟩

theorem answer_ne_of_lapsed {v : Visit} {s : Session} (h : s.Lapsed v.now) (hkey : v.request = .key)
    (b : BufferId) : (v.serve s).1 ≠ .ok (some b) := by
  obtain ⟨now, m, request⟩ := v
  cases hkey
  simp only [Visit.serve, key]
  split
  · simp [Except.map]
  · next id hid =>
    rw [if_pos (any_expiry_iff.2 (h (by rw [hid]; rfl)))]
    simp [Except.map]

theorem answer_of_held {v : Visit} {s : Session} {b : BufferId} (hkey : v.request = .key)
    (hheld : s.held = some b) (h : s.expiry.any (· < v.now) = false) :
    (v.serve s).1 = .ok (some b) := by
  obtain ⟨now, m, request⟩ := v
  cases hkey
  simp only [Visit.serve, key, hheld]
  rw [if_neg (Bool.eq_false_iff.1 h)]
  rfl

/-- From a moment at which what is held has lapsed to an answer there is a visit that gave a key, or moved
the limit far enough. -/
theorem exists_revival {later : List Visit} {last : Visit} {now : Float} {s : Session} {b : BufferId}
    (hs : s.Lapsed now) (hclock : (now :: (later ++ [last]).map Visit.now).IsChain (· ≤ ·))
    (hkey : last.request = .key) (hget : (last.serve (s.after later)).1 = .ok (some b)) :
    ∃ before v rest, later = before ++ v :: rest ∧
      (v.offer?.isSome ∨ v.Revives (s.after before)) := by
  -- on the visits in between; what is held has lapsed at each of them until the one that is looked for
  induction later generalizing s now with
  | nil =>
    obtain ⟨hle, -⟩ := List.isChain_cons_cons.1 hclock
    exact absurd hget (answer_ne_of_lapsed (hs.mono hle) hkey b)
  | cons v later ih =>
    obtain ⟨hle, hrest⟩ := List.isChain_cons_cons.1 hclock
    by_cases hv : v.offer?.isSome ∨ v.Revives s
    · exact ⟨[], v, later, rfl, hv⟩
    · obtain ⟨ho, hr⟩ := not_or.1 hv
      have hs' := lapsed_after (hs.mono hle) (Option.not_isSome_iff_eq_none.1 ho) hr
      obtain ⟨before, w, rest, rfl, hw⟩ := ih hs' hrest hget
      exact ⟨v :: before, w, rest, rfl, hw⟩

/-- **A key past its time is lost unless its limit is moved.** Let a new session come to hold a key with a
limit that the clock is past, and the clock never go back, before or after. If the session is later asked for
its key and answers this key, then in between a key was given to it, or its limit was moved to where the clock
was not past it. No other visits lead there, whatever their amounts and moments. -/
theorem revived_of_key {before later : List Visit} {last : Visit} {now : Float} {b : BufferId}
    (hclock : (before.map Visit.now ++ now :: (later ++ [last]).map Visit.now).IsChain (· ≤ ·))
    (hpast : (closed.after before).held = some b ∧ (closed.after before).PastLimit now)
    (hkey : last.request = .key)
    (hget : (last.serve ((closed.after before).after later)).1 = .ok (some b)) :
    ∃ done v rest, later = done ++ v :: rest ∧
      (v.offer?.isSome ∨ v.Revives ((closed.after before).after done)) :=
  exists_revival (fun _ => hpast.2) (List.isChain_append.1 hclock).2.1 hkey hget

/-- A key for ten seconds is past its time at 20. Five seconds more leave it so, the next hundred do not. -/
theorem revived_of_key_twice :
    let m : Memory := ⟨[⟨[1, 2], false, 0⟩]⟩
    let before : List Visit := [⟨0, m, .unlock (.buffer 0) (.whole 10)⟩]
    let later : List Visit := [⟨20, m, .extend (.whole 5)⟩, ⟨21, m, .extend (.real 100)⟩]
    let s := closed.after before
    s.held = some 0 ∧ s.PastLimit 20 ∧
      ((⟨30, m, .key⟩ : Visit).serve (s.after later)).1 = .ok (some 0) ∧
      ∃ done v rest, later = done ++ v :: rest ∧ (v.offer?.isSome ∨ v.Revives (s.after done)) := by
  intro m before later s
  have hheld : s.held = some 0 := rfl
  have hpast : s.PastLimit 20 := ⟨_, rfl, by decide +kernel⟩
  have hget : ((⟨30, m, .key⟩ : Visit).serve (s.after later)).1 = .ok (some 0) :=
    answer_of_held rfl rfl (by decide +kernel)
  exact ⟨hheld, hpast, hget, revived_of_key (by decide +kernel) ⟨hheld, hpast⟩ rfl hget⟩

/-- So a key that was past its time can be answered, though none was given meanwhile. -/
theorem key_extended :
    let m : Memory := ⟨[⟨[1, 2], false, 0⟩]⟩
    let s := closed.after [⟨0, m, .unlock (.buffer 0) (.whole 10)⟩]
    let extend : Visit := ⟨20, m, .extend (.whole 100)⟩
    s.held = some 0 ∧ s.PastLimit 20 ∧ extend.offer? = none ∧
      ((⟨30, m, .key⟩ : Visit).serve (s.after [extend])).1 = .ok (some 0) := by
  intro m s extend
  exact ⟨rfl, ⟨_, rfl, by decide +kernel⟩, rfl, answer_of_held rfl rfl (by decide +kernel)⟩

end KeyRecovery.Session
