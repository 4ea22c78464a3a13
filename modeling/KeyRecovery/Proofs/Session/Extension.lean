import KeyRecovery.Proofs.Session.Visit
import Mathlib.Data.List.Induction

/-!
# Where the limit of a key comes from

A key gets its limit when it is given, and every extension adds to the limit. A limit of zero counts as none, so
an extension that finds it there adds to the moment at which it comes instead.

* `Visit.extension?`, `extended` : the amount of an extension, and what it makes of a limit;
* `after_extension`, `after_idle_cases` : a visit that extends, and one that does not;
* `expiry_extended` : the limit after visits that give no key;
* `exists_last_offer` : a held key was given at some last visit;
* `foldl_extended` : extensions that never find zero add up, whatever the clock says;
* `expiry_accounted` : so it is in every run, and `expiry_restarted` : zero is found in some.
-/

namespace KeyRecovery.Session

def Visit.extension? (v : Visit) : Option (Float × Float) :=
  match v.request with
  | .extend amount => amount.toFloat?.map fun t => (v.now, t)
  | _ => none

def extended (limit : Float) (e : Float × Float) : Float := (if limit == 0 then e.1 else limit) + e.2

/-! ## One visit -/

theorem after_closed {v : Visit} (h : v.offer? = none) : v.after closed = closed := by
  rcases v.after_of_no_offer h closed with he | he | ⟨_, _, -, -, hheld, -⟩
  · exact he
  · exact he
  · cases hheld

theorem after_extension {v : Visit} {e : Float × Float} (h : v.extension? = some e) {id : BufferId}
    {limit : Float} : v.after ⟨some id, some limit⟩ = ⟨some id, some (extended limit e)⟩ := by
  obtain ⟨now, m, request⟩ := v
  cases request with
  | extend amount =>
    obtain ⟨t, ht, rfl⟩ := Option.map_eq_some_iff.1 h
    simp only [Visit.after, Visit.serve, extend, ht]
    rfl
  | unlock | unlockWithPassword | key | lock => cases h

theorem after_idle_cases {v : Visit} (ho : v.offer? = none) (he : v.extension? = none) (s : Session) :
    v.after s = s ∨ v.after s = closed := by
  rcases v.after_of_no_offer ho s with h | h | ⟨amount, t, hrequest, ht, -, -⟩
  · exact .inl h
  · exact .inr h
  · rw [Visit.extension?, hrequest] at he
    simp [ht] at he

/-! ## All visits -/

theorem closed_after_idle {visits : List Visit} (h : ∀ v ∈ visits, v.offer? = none) :
    closed.after visits = closed := by
  induction visits with
  | nil => rfl
  | cons v visits ih =>
    rw [after_cons, after_closed (h v List.mem_cons_self)]
    exact ih fun w hw => h w (List.mem_cons_of_mem v hw)

theorem expiry_extended {visits : List Visit} (h : ∀ v ∈ visits, v.offer? = none) {id : BufferId}
    {limit : Float} (hheld : (after ⟨some id, some limit⟩ visits).held.isSome) :
    (after ⟨some id, some limit⟩ visits).expiry =
      some ((visits.filterMap Visit.extension?).foldl extended limit) := by
  -- on the visits: an extension changes the limit, and any other keeps the session or closes it for good
  induction visits generalizing limit with
  | nil => rfl
  | cons v visits ih =>
    have hrest : ∀ w ∈ visits, w.offer? = none := fun w hw => h w (List.mem_cons_of_mem v hw)
    rw [after_cons] at hheld ⊢
    cases he : v.extension? with
    | some e =>
      rw [after_extension he] at hheld ⊢
      rw [List.filterMap_cons_some he, List.foldl_cons]
      exact ih hrest hheld
    | none =>
      rw [List.filterMap_cons_none he]
      rcases after_idle_cases (h v List.mem_cons_self) he ⟨some id, some limit⟩ with hs | hs
      · rw [hs] at hheld ⊢
        exact ih hrest hheld
      · rw [hs, closed_after_idle hrest] at hheld
        cases hheld

theorem exists_last_offer {visits : List Visit} (hheld : (closed.after visits).held.isSome) :
    ∃ before v later, visits = before ++ v :: later ∧ v.offer?.isSome ∧ ∀ w ∈ later, w.offer? = none := by
  induction visits using List.reverseRecOn with
  | nil => cases hheld
  | append_singleton visits v ih =>
    cases ho : v.offer? with
    | some o => exact ⟨visits, v, [], rfl, by rw [ho]; rfl, fun _ hw => nomatch hw⟩
    | none =>
      have hbefore : (closed.after visits).held.isSome := by
        rw [after_append, after_cons, after_nil] at hheld
        rcases v.after_of_no_offer ho (closed.after visits) with hs | hs | ⟨_, _, -, -, hs, -⟩
        · rwa [hs] at hheld
        · rw [hs] at hheld
          cases hheld
        · exact hs
      obtain ⟨before, u, later, rfl, hu, hlater⟩ := ih hbefore
      refine ⟨before, u, later ++ [v], by simp, hu, fun w hw => ?_⟩
      rcases List.mem_append.1 hw with hw | hw
      · exact hlater w hw
      · rwa [List.mem_singleton.1 hw]

theorem foldl_extended {es : List (Float × Float)} {limit : Float}
    (h : ∀ i < es.length, (((es.take i).map Prod.snd).foldl (· + ·) limit == 0) = false) :
    es.foldl extended limit = (es.map Prod.snd).foldl (· + ·) limit := by
  induction es generalizing limit with
  | nil => rfl
  | cons e es ih =>
    have hfirst : (limit == 0) = false := h 0 (Nat.zero_lt_succ _)
    have hextended : extended limit e = limit + e.2 := by
      rw [extended, hfirst]
      rfl
    rw [List.foldl_cons, hextended, List.map_cons, List.foldl_cons]
    exact ih fun i hi => h (i + 1) (Nat.succ_lt_succ hi)

/-- **Where a limit comes from.** Let a key be held after some visits to a new session. Then it was given at some
last visit; and if the time to live was accepted there, the limit is that moment and time, with each amount of the
later extensions added in their order, except that an extension that finds the limit at zero adds to the moment
at which it comes. So if none does, the limit is the plain sum, and those moments do not matter. -/
theorem expiry_accounted {visits : List Visit} (hheld : (closed.after visits).held.isSome) :
    (∃ before v later, visits = before ++ v :: later ∧ v.offer?.isSome ∧ ∀ w ∈ later, w.offer? = none) ∧
    ∀ before v later o t, visits = before ++ v :: later → v.offer? = some o → o.ttl.toFloat? = some t →
      (∀ w ∈ later, w.offer? = none) →
      let extensions := later.filterMap Visit.extension?
      (closed.after visits).expiry = some (extensions.foldl extended (v.now + t)) ∧
      ((∀ i < extensions.length,
          (((extensions.take i).map Prod.snd).foldl (· + ·) (v.now + t) == 0) = false) →
        (closed.after visits).expiry = some ((extensions.map Prod.snd).foldl (· + ·) (v.now + t))) := by
  refine ⟨exists_last_offer hheld, fun before v later o t hvisits ho ht hlater => ?_⟩
  intro extensions
  subst hvisits
  obtain ⟨id, hgiven⟩ := unlock_accepted ht v.now o.key o.memory (closed.after before)
  rw [after_append, after_cons, Visit.after_of_offer ho, hgiven] at hheld ⊢
  have hexpiry := expiry_extended hlater hheld
  refine ⟨hexpiry, fun hzero => ?_⟩
  rw [hexpiry, foldl_extended hzero]

/-- A key for a minute from 100 on, asked for once and extended twice. -/
theorem expiry_accounted_twice :
    let m : Memory := ⟨[⟨[1, 2], false, 0⟩]⟩
    let visits : List Visit := [⟨50, m, .unlock (.buffer 0) (.whole 5)⟩, ⟨100, m, .unlock (.buffer 0) (.whole 60)⟩,
      ⟨120, m, .extend (.whole 30)⟩, ⟨121, m, .key⟩, ⟨122, m, .extend (.real (-0.5))⟩]
    (closed.after visits).held = some 0 ∧ (closed.after visits).expiry = some (100 + 60 + 30 + -0.5) := by
  intro m visits
  have hheld : (closed.after visits).held = some 0 := by decide +kernel
  have hsome : (closed.after visits).held.isSome := by rw [hheld]; rfl
  have h := (expiry_accounted hsome).2 [⟨50, m, .unlock (.buffer 0) (.whole 5)⟩]
    ⟨100, m, .unlock (.buffer 0) (.whole 60)⟩ _ _ 60 rfl rfl (by decide +kernel) (by decide +kernel)
  exact ⟨hheld, h.2 (by decide +kernel)⟩

/-- A key that is given for no time at the start of the clock has its limit there, at zero. Ten seconds more, at
five, make it fifteen. -/
theorem expiry_restarted :
    let m : Memory := ⟨[⟨[1, 2], false, 0⟩]⟩
    let s := closed.after [⟨0, m, .unlock (.buffer 0) (.whole 0)⟩, ⟨5, m, .extend (.whole 10)⟩]
    s.held = some 0 ∧ s.expiry = some 15 ∧ (0 + 0 + 10 : Float) = 10 := by
  decide +kernel

end KeyRecovery.Session
