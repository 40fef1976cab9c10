import Mathlib
import MangaRecommender.Proofs.Binary64.Monotone

/-!
# The total order

The rank of a double says where it stands among all doubles.  Finite ones stand in the order of
their numbers, the negative zero before the positive one, and the infinities at either end; beyond
these stand the NaNs, on the side of their sign and the further the larger their payload.
-/

namespace MangaRecommender.Binary64

variable {left right double : Binary64}

theorem rank_of_negative (hnegative : double.negative = true) :
    double.rank = -(double.magnitude : ℤ) - 1 := by
  rw [rank, if_pos hnegative]

theorem rank_infinity_negative : (infinity true).rank = -(infinityMagnitude : ℤ) - 1 :=
  rank_of_negative rfl

theorem rank_infinity_positive : (infinity false).rank = infinityMagnitude :=
  rank_of_unsigned rfl

/-- Numbers do not descend where ranks ascend. -/
theorem scaled_le_of_rank_le (hle : left.rank ≤ right.rank) : left.scaled ≤ right.scaled := by
  have hunits : ∀ {lower upper : Nat}, lower ≤ upper → units lower ≤ units upper :=
    fun hle => units_strictMono.monotone hle
  cases hleft : left.negative <;> cases hright : right.negative
  case true.true =>
    rw [rank_of_negative hleft, rank_of_negative hright] at hle
    have := hunits (show right.magnitude ≤ left.magnitude by omega)
    rw [scaled, scaled, if_pos hleft, if_pos hright]
    omega
  case true.false =>
    rw [scaled, scaled, if_pos hleft, if_neg (Bool.eq_false_iff.1 hright)]
    omega
  case false.true =>
    rw [rank_of_unsigned hleft, rank_of_negative hright] at hle
    omega
  case false.false =>
    rw [rank_of_unsigned hleft, rank_of_unsigned hright] at hle
    have := hunits (show left.magnitude ≤ right.magnitude by omega)
    rw [scaled, scaled, if_neg (Bool.eq_false_iff.1 hleft), if_neg (Bool.eq_false_iff.1 hright)]
    omega

/-- A ranking of all doubles by the total order of the standard. -/
structure FollowsTotalOrder (place : Binary64 → ℤ) : Prop where
  injective : Function.Injective place
  finite : ∀ left right, left.isFinite = true → right.isFinite = true →
    left.value < right.value → place left < place right
  zeros : place (signedZero true) < place (signedZero false)
  infinite : ∀ double, double.isFinite = true →
    place (infinity true) < place double ∧ place double < place (infinity false)
  negativeNaN : ∀ double, double.isNaN = true → double.negative = true →
    place double < place (infinity true)
  positiveNaN : ∀ double, double.isNaN = true → double.negative = false →
    place (infinity false) < place double
  /-- NaNs of one sign are ordered by what is left of their bits. -/
  payloads : ∀ left right, left.isNaN = true → right.isNaN = true →
    left.magnitude < right.magnitude →
      (left.negative = true → right.negative = true → place right < place left) ∧
        (left.negative = false → right.negative = false → place left < place right)

theorem rank_followsTotalOrder : FollowsTotalOrder rank where
  injective _ _ := rank_injective
  finite left right _ _ hvalue := by
    by_contra hrank
    have hscaled : right.scaled ≤ left.scaled := scaled_le_of_rank_le (not_lt.1 hrank)
    refine hvalue.not_ge ?_
    rw [value, value]
    exact div_le_div_of_nonneg_right (Int.cast_le.2 hscaled) (Nat.cast_nonneg _)
  zeros := by decide
  infinite double hfinite := by
    have hbelow : double.magnitude < infinityMagnitude := of_decide_eq_true hfinite
    rw [rank_infinity_negative, rank_infinity_positive, rank]
    split <;> omega
  negativeNaN double hnan hnegative := by
    have habove : infinityMagnitude < double.magnitude := of_decide_eq_true hnan
    rw [rank_of_negative hnegative, rank_infinity_negative]
    omega
  positiveNaN double hnan hnegative := by
    have habove : infinityMagnitude < double.magnitude := of_decide_eq_true hnan
    rw [rank_of_unsigned hnegative, rank_infinity_positive]
    exact Int.ofNat_lt.2 habove
  payloads left right _ _ hmagnitude := by
    refine ⟨fun hleft hright => ?_, fun hleft hright => ?_⟩
    · rw [rank_of_negative hleft, rank_of_negative hright]
      omega
    · rw [rank_of_unsigned hleft, rank_of_unsigned hright]
      exact Int.ofNat_lt.2 hmagnitude

end MangaRecommender.Binary64
