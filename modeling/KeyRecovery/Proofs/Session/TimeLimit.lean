import KeyRecovery.Proofs.Session.Visit
import Mathlib.Algebra.Order.Ring.Int
import Mathlib.Data.List.Induction

/-!
# Which held keys have a time limit

* `Unlimited s` : session `s` holds a key without a limit;
* `Visit.Refused` : a visit gives a key with a time to live that is refused;
* `Visit.after_cases` : what one visit leaves, and `unlimited_after` : when that is a key without a limit;
* `unlimited_iff` : a key has no limit just if the last visit that changed the session was refused;
* `held_iff_limited` : so it is after any visits, and without refused times every held key has its limit;
* `unlimited_huge` : one time to live that is too large for a double is enough.
-/

namespace KeyRecovery.Session

def Unlimited (s : Session) : Prop := s.held.isSome ∧ s.expiry = none

/-- A visit gives the session a key with a time to live that is refused, and the key is not the very buffer
that the session holds under a limit. -/
def Visit.Refused (v : Visit) (s : Session) : Prop :=
  ∃ o, v.offer? = some o ∧ o.ttl.toFloat? = none ∧
    ¬ (s.held.map Ref.buffer = some o.key ∧ s.expiry.isSome)

/-! ## One visit -/

theorem not_unlimited_closed : ¬ closed.Unlimited := fun h => nomatch h.1

theorem Visit.not_refused {v : Visit} (h : v.offer? = none) (s : Session) : ¬ v.Refused s := by
  rintro ⟨o, ho, -⟩
  rw [h] at ho
  cases ho

/-- A visit leaves the session as it is, or without a key, or with a key, which has a limit just if the
visit was not refused. -/
theorem Visit.after_cases (v : Visit) (s : Session) :
    ¬ v.Refused s ∧ v.after s = s ∨ ¬ v.Refused s ∧ v.after s = closed ∨
      (v.after s).held.isSome ∧ ((v.after s).expiry.isSome ↔ ¬ v.Refused s) := by
  cases ho : v.offer? with
  | none =>
    have hr := Visit.not_refused ho s
    rcases v.after_of_no_offer ho s with h | h | ⟨_, _, -, -, hheld, h⟩
    · exact .inl ⟨hr, h⟩
    · exact .inr (.inl ⟨hr, h⟩)
    · rw [h]
      exact .inr (.inr ⟨hheld, iff_of_true rfl hr⟩)
  | some o =>
    right
    right
    rw [Visit.after_of_offer ho]
    cases ht : o.ttl.toFloat? with
    | some t =>
      obtain ⟨id, h⟩ := unlock_accepted ht v.now o.key o.memory s
      rw [h]
      refine ⟨rfl, iff_of_true rfl ?_⟩
      rintro ⟨o', ho', ht', -⟩
      obtain rfl : o = o' := Option.some.inj (ho.symm.trans ho')
      rw [ht] at ht'
      cases ht'
    | none =>
      obtain ⟨id, h⟩ := unlock_refused ht v.now o.key o.memory s
      have hr : v.Refused s ↔ ¬ (s.held.map Ref.buffer = some o.key ∧ s.expiry.isSome) := by
        constructor
        · rintro ⟨o', ho', -, hn⟩
          obtain rfl : o = o' := Option.some.inj (ho.symm.trans ho')
          exact hn
        · exact fun hn => ⟨o, ho, ht, hn⟩
      rw [h, hr, not_not]
      refine ⟨rfl, ?_⟩
      by_cases hsame : s.held.map Ref.buffer = some o.key <;> simp [hsame]

theorem unlimited_after {v : Visit} {s : Session} :
    (v.after s).Unlimited ↔ v.Refused s ∨ s.Unlimited ∧ v.after s = s := by
  rcases v.after_cases s with ⟨hr, h⟩ | ⟨hr, h⟩ | ⟨hheld, hlimit⟩
  · simp [h, hr]
  · rw [h]
    refine iff_of_false not_unlimited_closed ?_
    rintro (hr' | ⟨hs, he⟩)
    · exact hr hr'
    · exact not_unlimited_closed (he ▸ hs)
  · have hiff : (v.after s).Unlimited ↔ v.Refused s := by
      rw [Unlimited, ← Option.not_isSome_iff_eq_none, hlimit, not_not]
      exact and_iff_right hheld
    rw [hiff]
    exact ⟨.inl, fun h => h.elim id fun ⟨hs, he⟩ => hiff.1 (he.symm ▸ hs)⟩

theorem held_of_expiry_after {v : Visit} {s : Session} (h : s.expiry.isSome → s.held.isSome) :
    (v.after s).expiry.isSome → (v.after s).held.isSome := by
  rcases v.after_cases s with ⟨-, he⟩ | ⟨-, he⟩ | ⟨hheld, -⟩
  · rwa [he]
  · rw [he]
    exact id
  · exact fun _ => hheld

/-! ## All visits -/

theorem held_of_expiry (visits : List Visit) :
    (closed.after visits).expiry.isSome → (closed.after visits).held.isSome := by
  induction visits using List.reverseRecOn with
  | nil => exact id
  | append_singleton visits v ih =>
    rw [after_append]
    exact held_of_expiry_after ih

theorem after_idle {s : Session} {visits : List Visit} (h : ∀ v ∈ visits, v.after s = s) :
    s.after visits = s := by
  induction visits with
  | nil => rfl
  | cons v visits ih =>
    rw [after_cons, h v List.mem_cons_self]
    exact ih fun w hw => h w (List.mem_cons_of_mem v hw)

theorem after_idle_tail {before later : List Visit} {v : Visit}
    (h : ∀ w ∈ later, w.after (closed.after (before ++ [v])) = closed.after (before ++ [v])) :
    closed.after (before ++ v :: later) = closed.after (before ++ [v]) := by
  rw [List.append_cons, after_append, after_idle h]

theorem unlimited_iff (visits : List Visit) :
    (closed.after visits).Unlimited ↔ ∃ before v later, visits = before ++ v :: later ∧
      v.Refused (closed.after before) ∧
      ∀ w ∈ later, w.after (closed.after (before ++ [v])) = closed.after (before ++ [v]) := by
  constructor
  · induction visits using List.reverseRecOn with
    | nil => exact fun h => absurd h not_unlimited_closed
    | append_singleton visits v ih =>
      intro h
      rw [after_append] at h
      rcases unlimited_after.1 h with hr | ⟨hs, he⟩
      · exact ⟨visits, v, [], rfl, hr, fun _ hw => nomatch hw⟩
      · obtain ⟨before, u, later, rfl, hr, hidle⟩ := ih hs
        rw [after_idle_tail hidle] at he
        refine ⟨before, u, later ++ [v], by simp, hr, fun w hw => ?_⟩
        rcases List.mem_append.1 hw with hw | hw
        · exact hidle w hw
        · rwa [List.mem_singleton.1 hw]
  · rintro ⟨before, v, later, rfl, hr, hidle⟩
    rw [after_idle_tail hidle, after_append]
    exact unlimited_after.2 (.inl hr)

/-- **Which held keys have a limit.** After any visits to a new session, whether they failed or not: a limit
is set only if a key is held; a key is held without one just if the last visit that changed the session gave
the key with a time to live that was refused; so if all given times are accepted, a key is held just if a
limit is set. -/
theorem held_iff_limited (visits : List Visit) :
    let s := closed.after visits
    (s.expiry.isSome → s.held.isSome) ∧
    (s.held.isSome ∧ s.expiry = none ↔ ∃ before v later, visits = before ++ v :: later ∧
      v.Refused (closed.after before) ∧
      ∀ w ∈ later, w.after (closed.after (before ++ [v])) = closed.after (before ++ [v])) ∧
    ((∀ v ∈ visits, ∀ o, v.offer? = some o → o.ttl.toFloat?.isSome) →
      (s.held.isSome ↔ s.expiry.isSome)) := by
  intro s
  refine ⟨held_of_expiry visits, unlimited_iff visits, fun haccepted => ⟨fun hheld => ?_,
    held_of_expiry visits⟩⟩
  by_contra hnone
  obtain ⟨before, v, later, rfl, ⟨o, ho, ht, -⟩, -⟩ :=
    (unlimited_iff visits).1 ⟨hheld, Option.not_isSome_iff_eq_none.1 hnone⟩
  have := haccepted v (by simp) o ho
  rw [ht] at this
  cases this

/-- A key that is given for `2 ^ 1024` seconds is refused, and held without a limit. -/
theorem unlimited_huge :
    let s := closed.after [⟨0, ⟨[⟨[1, 2], false, 0⟩]⟩, .unlock (.buffer 0) (.whole (2 ^ 1024))⟩]
    s.held = some 0 ∧ s.expiry = none := by
  decide +kernel

end KeyRecovery.Session
