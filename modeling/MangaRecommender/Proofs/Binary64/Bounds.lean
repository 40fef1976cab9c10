import Mathlib
import MangaRecommender.Binary64.Arithmetic
import MangaRecommender.Proofs.Binary64.Finite
import MangaRecommender.Proofs.Binary64.Rounding

/-!
# Operations within bounds

A double whose absolute value is at most a power of two is finite, and so are sums, products and
quotients of such doubles as long as the powers stay below the largest exponent.  Since rounding
is monotone and a power of two is a double itself, no result is rounded past the bound of its
exact value.
-/

namespace MangaRecommender.Binary64

/-- The absolute value is at most `2 ^ exponent`; no infinity and no NaN is. -/
def IsWithin (exponent : Nat) (value : Binary64) : Prop :=
  value.magnitude ≤ powerMagnitude exponent

variable {left right value : Binary64} {exponent leftExponent rightExponent : Nat}

namespace IsWithin

theorem isFinite (hwithin : value.IsWithin exponent) (hexponent : exponent < 1024) :
    value.isFinite = true :=
  decide_eq_true (lt_of_le_of_lt hwithin (powerMagnitude_lt hexponent))

theorem mono {larger : Nat} (hwithin : value.IsWithin exponent) (hle : exponent ≤ larger) :
    value.IsWithin larger :=
  le_trans hwithin (Nat.mul_le_mul_right _ (Nat.add_le_add_right hle 1023))

theorem units_le (hwithin : value.IsWithin exponent) :
    units value.magnitude ≤ 2 ^ exponent * unitsPerOne := by
  rw [← units_powerMagnitude]
  exact units_strictMono.monotone hwithin

theorem natAbs_scaled_le (hwithin : value.IsWithin exponent) :
    value.scaled.natAbs ≤ 2 ^ exponent * unitsPerOne := by
  have hunits := hwithin.units_le
  rw [scaled]
  split <;> simpa using hunits

end IsWithin

theorem isWithin_signedZero (negative : Bool) : (signedZero negative).IsWithin exponent :=
  Nat.zero_le _

theorem isWithin_nearest (negative : Bool) {numerator denominator : Nat}
    (hpositive : 0 < denominator)
    (hle : numerator ≤ 2 ^ exponent * unitsPerOne * denominator) :
    (nearest negative numerator denominator).IsWithin exponent := by
  apply nearestMagnitude_le_of_le hpositive
  rw [units_powerMagnitude]
  exact hle

theorem isWithin_ofScaled (zeroNegative : Bool) {amount : Int}
    (hle : amount.natAbs ≤ 2 ^ exponent * unitsPerOne) :
    (ofScaled zeroNegative amount).IsWithin exponent := by
  rw [ofScaled]
  split
  · exact isWithin_signedZero zeroNegative
  · apply isWithin_nearest _ Nat.one_pos
    rw [Nat.mul_one]
    exact hle

theorem isWithin_ofFraction {numerator : Int} {denominator : Nat} (hpositive : 0 < denominator)
    (hle : numerator.natAbs ≤ 2 ^ exponent * denominator) :
    (ofFraction numerator denominator).IsWithin exponent := by
  apply isWithin_nearest _ hpositive
  calc numerator.natAbs * unitsPerOne
      ≤ 2 ^ exponent * denominator * unitsPerOne := Nat.mul_le_mul_right _ hle
    _ = 2 ^ exponent * unitsPerOne * denominator := Nat.mul_right_comm _ _ _

theorem isWithin_ofNat {number : Nat} (hle : number ≤ 2 ^ exponent) :
    (ofNat number).IsWithin exponent := by
  apply isWithin_ofFraction Nat.one_pos
  rw [Nat.mul_one, Int.natAbs_natCast]
  exact hle

theorem isWithin_ofInt {number : Int} (hle : number.natAbs ≤ 2 ^ exponent) :
    (ofInt number).IsWithin exponent := by
  apply isWithin_ofFraction Nat.one_pos
  rw [Nat.mul_one]
  exact hle

theorem IsWithin.neg (hwithin : value.IsWithin exponent) : (neg value).IsWithin exponent :=
  hwithin

/-! ## Operations -/

/-- A sum of two doubles within one bound is within twice the bound. -/
theorem IsWithin.add (hleft : left.IsWithin exponent) (hright : right.IsWithin exponent)
    (hexponent : exponent < 1024) : (left + right).IsWithin (exponent + 1) := by
  rw [add_of_isFinite (hleft.isFinite hexponent) (hright.isFinite hexponent)]
  apply isWithin_ofScaled
  calc (left.scaled + right.scaled).natAbs
      ≤ left.scaled.natAbs + right.scaled.natAbs := Int.natAbs_add_le _ _
    _ ≤ 2 ^ exponent * unitsPerOne + 2 ^ exponent * unitsPerOne :=
        Nat.add_le_add hleft.natAbs_scaled_le hright.natAbs_scaled_le
    _ = 2 ^ (exponent + 1) * unitsPerOne := by
        rw [pow_succ 2 exponent, Nat.mul_two, Nat.add_mul]

theorem IsWithin.sub (hleft : left.IsWithin exponent) (hright : right.IsWithin exponent)
    (hexponent : exponent < 1024) : (left - right).IsWithin (exponent + 1) :=
  hleft.add hright.neg hexponent

theorem IsWithin.mul (hleft : left.IsWithin leftExponent) (hright : right.IsWithin rightExponent)
    (hleftExponent : leftExponent < 1024) (hrightExponent : rightExponent < 1024) :
    (left * right).IsWithin (leftExponent + rightExponent) := by
  rw [mul_of_isFinite (hleft.isFinite hleftExponent) (hright.isFinite hrightExponent)]
  apply isWithin_nearest _ unitsPerOne_pos
  calc units left.magnitude * units right.magnitude
      ≤ 2 ^ leftExponent * unitsPerOne * (2 ^ rightExponent * unitsPerOne) :=
        Nat.mul_le_mul hleft.units_le hright.units_le
    _ = 2 ^ (leftExponent + rightExponent) * unitsPerOne * unitsPerOne := by
        generalize unitsPerOne = scale
        rw [Nat.pow_add]
        ring

/-- A quotient by a double of at least one is no larger than the dividend. -/
theorem IsWithin.div (hleft : left.IsWithin exponent) (hexponent : exponent < 1024)
    (hright : right.IsWithin rightExponent) (hrightExponent : rightExponent < 1024)
    (hone : powerMagnitude 0 ≤ right.magnitude) : (left / right).IsWithin exponent := by
  have hscale : unitsPerOne ≤ units right.magnitude := by
    calc unitsPerOne = units (powerMagnitude 0) := by rw [units_powerMagnitude, pow_zero, one_mul]
      _ ≤ units right.magnitude := units_strictMono.monotone hone
  have hpositive : 0 < units right.magnitude := unitsPerOne_pos.trans_le hscale
  have hzero : right.isZero = false := by
    refine decide_eq_false fun hzero => ?_
    rw [hzero] at hone
    exact absurd hone (by decide)
  rw [div_of_isFinite (hleft.isFinite hexponent) (hright.isFinite hrightExponent) hzero]
  apply isWithin_nearest _ hpositive
  exact Nat.mul_le_mul hleft.units_le hscale

theorem powerMagnitude_zero_le_ofNat {natural : Nat} (hpositive : 0 < natural) :
    powerMagnitude 0 ≤ (ofNat natural).magnitude := by
  apply le_nearestMagnitude_of_le Nat.one_pos (powerMagnitude_lt (by decide)).le
  rw [units_powerMagnitude, pow_zero, Nat.one_mul, Nat.mul_one, Int.natAbs_natCast]
  exact Nat.le_mul_of_pos_left _ hpositive

/-- An integer that is at most a multiple of another number is so after both are rounded, if the
factor is a power of two, by which rounding is not disturbed. -/
theorem magnitude_ofInt_le {integer : Int} {natural : Nat} (hpositive : 0 < natural)
    (hfinite : (ofNat natural).isFinite = true) (hle : integer.natAbs ≤ 2 ^ exponent * natural) :
    (ofInt integer).magnitude ≤ (ofNat natural).magnitude + exponent * 2 ^ 52 := by
  have hscale : 2 ^ 52 ≤ unitsPerOne := by decide +kernel
  have hlarge : 2 ^ 52 * 1 ≤ natural * unitsPerOne := by
    rw [Nat.mul_one]
    exact hscale.trans (Nat.le_mul_of_pos_left unitsPerOne hpositive)
  have hexact : (ofNat natural).magnitude = unboundedMagnitude (natural * unitsPerOne) 1 := by
    have hmin : (ofNat natural).magnitude =
        min infinityMagnitude (unboundedMagnitude (natural * unitsPerOne) 1) :=
      nearestMagnitude_eq _ _
    have hlt : (ofNat natural).magnitude < infinityMagnitude := of_decide_eq_true hfinite
    omega
  rw [hexact, ← unboundedMagnitude_mul_two_pow Nat.one_pos hlarge exponent]
  refine (nearestMagnitude_eq _ _).trans_le ((Nat.min_le_right _ _).trans ?_)
  apply unboundedMagnitude_mono Nat.one_pos Nat.one_pos
  calc integer.natAbs * unitsPerOne * 1
      ≤ 2 ^ exponent * natural * unitsPerOne * 1 :=
        Nat.mul_le_mul_right _ (Nat.mul_le_mul_right _ hle)
    _ = natural * unitsPerOne * 2 ^ exponent * 1 := by
        generalize unitsPerOne = scale
        ring

/-- A mean of integers is within the bound of the integers, although their sum and their number are
rounded before they are divided. -/
theorem isWithin_ofInt_div_ofNat {integer : Int} {natural : Nat} (hpositive : 0 < natural)
    (hnatural : natural ≤ 2 ^ rightExponent) (hle : integer.natAbs ≤ 2 ^ exponent * natural)
    (hexponent : exponent + rightExponent < 1024) :
    (ofInt integer / ofNat natural).IsWithin exponent := by
  have hdividend : (ofInt integer).IsWithin (exponent + rightExponent) := by
    apply isWithin_ofInt
    rw [pow_add]
    exact hle.trans (Nat.mul_le_mul_left _ hnatural)
  have hdivisor : (ofNat natural).isFinite = true := (isWithin_ofNat hnatural).isFinite (by omega)
  have hnormal : 2 ^ 52 ≤ (ofNat natural).magnitude :=
    le_trans (by decide) (powerMagnitude_zero_le_ofNat hpositive)
  have hnonzero : 0 < (ofNat natural).magnitude := (Nat.two_pow_pos 52).trans_le hnormal
  have hunits : 0 < units (ofNat natural).magnitude :=
    (Nat.zero_le (units 0)).trans_lt (units_strictMono hnonzero)
  have hscaled : units (ofInt integer).magnitude ≤ units (ofNat natural).magnitude * 2 ^ exponent := by
    rw [← units_add_binades hnormal]
    exact units_strictMono.monotone (magnitude_ofInt_le hpositive hdivisor hle)
  rw [div_of_isFinite (hdividend.isFinite hexponent) hdivisor (decide_eq_false hnonzero.ne')]
  apply isWithin_nearest _ hunits
  calc units (ofInt integer).magnitude * unitsPerOne
      ≤ units (ofNat natural).magnitude * 2 ^ exponent * unitsPerOne :=
        Nat.mul_le_mul_right _ hscaled
    _ = 2 ^ exponent * unitsPerOne * units (ofNat natural).magnitude := by
        generalize unitsPerOne = scale
        ring

theorem IsWithin.roundToWhole_le (hwithin : value.IsWithin exponent) :
    value.roundToWhole ≤ 2 ^ exponent :=
  roundHalfEven_le hwithin.units_le

theorem IsWithin.natAbs_toNearestInt_le (hwithin : value.IsWithin exponent) :
    value.toNearestInt.natAbs ≤ 2 ^ exponent := by
  have hwhole := hwithin.roundToWhole_le
  rw [toNearestInt]
  split
  · rw [Int.natAbs_neg, Int.natAbs_natCast]
    exact hwhole
  · rw [Int.natAbs_natCast]
    exact hwhole

theorem IsWithin.roundHalvesToEven (hwithin : value.IsWithin exponent)
    (hexponent : exponent < 1024) : value.roundHalvesToEven.IsWithin exponent := by
  rw [roundHalvesToEven_of_isFinite (hwithin.isFinite hexponent)]
  apply isWithin_nearest _ Nat.one_pos
  rw [Nat.mul_one]
  exact Nat.mul_le_mul_right _ hwithin.roundToWhole_le

/-! ## What is left above zero -/

theorem magnitude_positivePart_le (value : Binary64) :
    value.positivePart.magnitude ≤ value.magnitude := by
  rw [Binary64.positivePart]
  split
  · exact Nat.zero_le _
  · exact le_rfl

theorem negative_positivePart (value : Binary64) : value.positivePart.negative = false := by
  rw [Binary64.positivePart]
  split
  · rfl
  · next hpositive =>
    rw [Bool.or_eq_true, not_or, Bool.not_eq_true, Bool.not_eq_true] at hpositive
    exact hpositive.2

theorem IsWithin.positivePart (hwithin : value.IsWithin exponent) :
    value.positivePart.IsWithin exponent :=
  (magnitude_positivePart_le value).trans hwithin

theorem magnitude_positivePart_ofScaled_le (zeroNegative : Bool) {amount : Int} {magnitude : Nat}
    (hle : amount ≤ units magnitude) :
    (ofScaled zeroNegative amount).positivePart.magnitude ≤ magnitude := by
  by_cases hnegative : amount < 0
  · have hpart : (ofScaled zeroNegative amount).positivePart = signedZero false := by
      simp [ofScaled, Binary64.positivePart, hnegative, hnegative.ne, nearest]
    rw [hpart]
    exact Nat.zero_le _
  · refine (magnitude_positivePart_le _).trans ?_
    rw [ofScaled]
    split
    · exact Nat.zero_le _
    · apply nearestMagnitude_le_of_le Nat.one_pos
      omega

section Ceiling

variable {ceiling distance : Binary64} (hceiling : ceiling.isFinite = true)
  (hdistance : distance.negative = false)

include hceiling hdistance

/-- Nothing is left of a ceiling above a distance that is infinite or not a number. -/
theorem positivePart_sub_of_not_isFinite (hfinite : distance.isFinite = false) :
    (ceiling - distance).positivePart = signedZero false := by
  have hnan := not_isNaN_of_isFinite hceiling
  have hinfinite := not_isInfinite_of_isFinite hceiling
  have hnegative : (neg distance).negative = true := by rw [neg, hdistance, Bool.not_false]
  have hspecial : (neg distance).isNaN = true ∨ (neg distance).isInfinite = true := by
    have hle : infinityMagnitude ≤ distance.magnitude := not_lt.1 (of_decide_eq_false hfinite)
    exact hle.lt_or_eq.imp decide_eq_true fun heq => decide_eq_true heq.symm
  show (add ceiling (neg distance)).positivePart = signedZero false
  by_cases hdistanceNaN : (neg distance).isNaN = true
  · simp only [add, hnan, hdistanceNaN, Bool.or_true, if_true]
    rfl
  · have hdistanceInfinite := hspecial.resolve_left hdistanceNaN
    simp only [add, hnan, hdistanceNaN, hinfinite, hdistanceInfinite, Bool.or_self,
      Bool.false_eq_true, if_false, if_true, Binary64.positivePart, hnegative, Bool.or_true]

/-- What is left of a ceiling above any distance is at most the ceiling. -/
theorem magnitude_positivePart_sub_le (hsign : ceiling.negative = false) :
    (ceiling - distance).positivePart.magnitude ≤ ceiling.magnitude := by
  cases hfinite : distance.isFinite with
  | false =>
    rw [positivePart_sub_of_not_isFinite hceiling hdistance hfinite]
    exact Nat.zero_le _
  | true =>
    have hdifference : ceiling - distance =
        ofScaled (ceiling.negative && (neg distance).negative)
          (ceiling.scaled + (neg distance).scaled) := add_of_isFinite hceiling hfinite
    have hscaled : (neg distance).scaled = -(units distance.magnitude : Int) := by
      simp only [scaled, neg, hdistance, Bool.not_false, if_true]
    have hamount : ceiling.scaled = (units ceiling.magnitude : Int) := by
      rw [scaled, hsign, if_neg Bool.false_ne_true]
    rw [hdifference, hscaled, hamount]
    apply magnitude_positivePart_ofScaled_le
    omega

end Ceiling

end MangaRecommender.Binary64
