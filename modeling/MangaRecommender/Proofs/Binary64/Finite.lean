import Mathlib
import MangaRecommender.Binary64.Arithmetic

/-!
# Operations on finite doubles

Between finite doubles none of the special cases applies: the exact result of an operation is
rounded once, and that is all.  A quotient needs a divisor other than zero as well.
-/

namespace MangaRecommender.Binary64

variable {left right value : Binary64}

@[simp]
theorem negative_nearest (negative : Bool) (numerator denominator : Nat) :
    (nearest negative numerator denominator).negative = negative := rfl

theorem not_isNaN_of_isFinite (hfinite : value.isFinite = true) : value.isNaN = false :=
  decide_eq_false (of_decide_eq_true hfinite).not_gt

theorem not_isInfinite_of_isFinite (hfinite : value.isFinite = true) : value.isInfinite = false :=
  decide_eq_false (of_decide_eq_true hfinite).ne

theorem add_of_isFinite (hleft : left.isFinite = true) (hright : right.isFinite = true) :
    left + right = ofScaled (left.negative && right.negative) (left.scaled + right.scaled) := by
  show add left right = _
  simp only [add, not_isNaN_of_isFinite hleft, not_isNaN_of_isFinite hright,
    not_isInfinite_of_isFinite hleft, not_isInfinite_of_isFinite hright, Bool.or_self,
    Bool.false_eq_true, if_false]

theorem mul_of_isFinite (hleft : left.isFinite = true) (hright : right.isFinite = true) :
    left * right = nearest (left.negative != right.negative)
      (units left.magnitude * units right.magnitude) unitsPerOne := by
  show mul left right = _
  simp only [mul, not_isNaN_of_isFinite hleft, not_isNaN_of_isFinite hright,
    not_isInfinite_of_isFinite hleft, not_isInfinite_of_isFinite hright, Bool.or_self,
    Bool.false_eq_true, if_false]

theorem div_of_isFinite (hleft : left.isFinite = true) (hright : right.isFinite = true)
    (hzero : right.isZero = false) :
    left / right = nearest (left.negative != right.negative)
      (units left.magnitude * unitsPerOne) (units right.magnitude) := by
  show div left right = _
  simp only [div, not_isNaN_of_isFinite hleft, not_isNaN_of_isFinite hright,
    not_isInfinite_of_isFinite hleft, not_isInfinite_of_isFinite hright, hzero, Bool.or_self,
    Bool.false_eq_true, if_false]

theorem roundHalvesToEven_of_isFinite (hfinite : value.isFinite = true) :
    value.roundHalvesToEven = nearest value.negative (value.roundToWhole * unitsPerOne) 1 := by
  rw [roundHalvesToEven, if_pos hfinite]

end MangaRecommender.Binary64
