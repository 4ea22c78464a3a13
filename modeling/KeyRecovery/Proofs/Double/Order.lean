import Mathlib.Data.Prod.Lex
import Mathlib.Algebra.Order.Ring.Int

/-!
# The order of doubles

Doubles are compared by class and sign, then by exponent, then by digits. What is no number is in no
order with anything.

* `Double.rank` : the place of a double in the order, if it has one;
* `Double.compare_eq` : comparing numbers is comparing ranks;
* `Double.lt_iff`, `Double.le_iff` : so doubles are ordered by rank;
* `Double.lt_of_lt_of_le` : what is below a double is below all greater ones.
-/

namespace KeyRecovery.Double

open Float.Model (UnpackedFloat)

/-- The place of a number in the order: negative infinity, negative numbers, zeros, positive numbers and
infinity, and within a sign the exponent and the digits. -/
def rankOf : UnpackedFloat → Option (ℤ ×ₗ ℤ ×ₗ ℤ)
  | .notANumber => none
  | .infinity .negative => some (toLex (-2, toLex (0, 0)))
  | .finite .negative digits exponent _ => some (toLex (-1, toLex (-exponent, -digits)))
  | .zero _ => some (toLex (0, toLex (0, 0)))
  | .finite .positive digits exponent _ => some (toLex (1, toLex (exponent, digits)))
  | .infinity .positive => some (toLex (2, toLex (0, 0)))

def rank (x : Float) : Option (ℤ ×ₗ ℤ ×ₗ ℤ) := rankOf x.toModel.unpack

/-! ## Comparing numbers -/

theorem compare_neg (a b : ℤ) : compare (-a) (-b) = (compare a b).swap := by
  rcases lt_trichotomy a b with h | rfl | h
  · rw [compare_lt_iff_lt.2 h, compare_gt_iff_gt.2 (neg_lt_neg h)]
    rfl
  · rw [compare_eq_iff_eq.2 rfl, compare_eq_iff_eq.2 rfl]
    rfl
  · rw [compare_gt_iff_gt.2 h, compare_lt_iff_lt.2 (neg_lt_neg h)]
    rfl

theorem compare_natCast (m n : ℕ) : compare (m : ℤ) n = compare m n := by
  rcases lt_trichotomy m n with h | rfl | h
  · rw [compare_lt_iff_lt.2 h, compare_lt_iff_lt.2 (Int.ofNat_lt.2 h)]
  · rw [compare_eq_iff_eq.2 rfl, compare_eq_iff_eq.2 rfl]
  · rw [compare_gt_iff_gt.2 h, compare_gt_iff_gt.2 (Int.ofNat_lt.2 h)]

theorem compare_toLex (i j : ℤ) {α : Type} [LinearOrder α] (x y : α) :
    compare (toLex (i, x)) (toLex (j, y)) = (compare i j).then (compare x y) := by
  rw [Prod.Lex.compare_def]
  rfl

theorem compare_eq (a b : UnpackedFloat) :
    a.compare b = (rankOf a).bind fun x => (rankOf b).map fun y => compare x y := by
  rcases a with (_ | _) | _ | _ | ⟨_ | _, m, e, hm⟩ <;>
    rcases b with (_ | _) | _ | _ | ⟨_ | _, m', e', hm'⟩ <;>
    dsimp only [rankOf, Option.bind_some, Option.bind_none, Option.map_some, Option.map_none] <;>
    try rw [compare_toLex]
  case finite.negative.finite.negative =>
    rw [compare_toLex, compare_neg e, compare_neg m, compare_natCast, ← Ordering.swap_then]
    rfl
  case finite.positive.finite.positive =>
    rw [compare_toLex, compare_natCast]
    rfl
  all_goals rfl

/-! ## Comparing doubles -/

theorem lt_iff {x y : Float} : x < y ↔ ∃ a b, rank x = some a ∧ rank y = some b ∧ a < b := by
  have hcompare : x < y ↔ x.toModel.unpack.compare y.toModel.unpack = some .lt :=
    decide_eq_true_iff.trans beq_iff_eq
  rw [hcompare, compare_eq, ← rank, ← rank]
  cases rank x <;> cases rank y <;> simp [compare_lt_iff_lt]

theorem le_iff {x y : Float} : x ≤ y ↔ ∃ a b, rank x = some a ∧ rank y = some b ∧ a ≤ b := by
  have hcompare : x ≤ y ↔ (x.toModel.unpack.compare y.toModel.unpack).any (·.isLE) = true :=
    decide_eq_true_iff
  rw [hcompare, compare_eq, ← rank, ← rank]
  cases rank x <;> cases rank y <;> simp [compare_le_iff_le, Ordering.isLE_iff_ne_gt]

theorem lt_of_lt_of_le {x y z : Float} (h : x < y) (h' : y ≤ z) : x < z := by
  obtain ⟨a, b, ha, hb, hab⟩ := lt_iff.1 h
  obtain ⟨b', c, hb', hc, hbc⟩ := le_iff.1 h'
  obtain rfl : b = b' := Option.some.inj (hb.symm.trans hb')
  exact lt_iff.2 ⟨a, c, ha, hc, hab.trans_le hbc⟩

end KeyRecovery.Double
