import Mathlib
import MangaRecommender.Binary64.Order
import MangaRecommender.Proofs.Binary64.Bounds
import MangaRecommender.Proofs.Binary64.Exact

/-!
# Monotone operations

Doubles without a sign are ordered by their magnitudes.  An operation on them rounds an exact result
that grows with the operands, and rounding is monotone, so no operation puts two results into the
opposite order of its operands.  Two equal operands are a case of this: what is computed from
doubles without a sign has none either.
-/

namespace MangaRecommender.Binary64

/-- A finite double without a sign; a zero is the positive one. -/
structure IsUnsigned (double : Binary64) : Prop where
  isFinite : double.isFinite = true
  negative : double.negative = false

/-- Both are finite, and so are the numbers that they stand for in order. -/
structure AtMost (lower upper : Binary64) : Prop where
  lowerFinite : lower.isFinite = true
  upperFinite : upper.isFinite = true
  le : lower.value ≤ upper.value

/-- Neither double has a sign, the lower is at most the upper, and that is at most
`2 ^ exponent`. -/
structure Ascends (exponent : Nat) (lower upper : Binary64) : Prop where
  lowerNegative : lower.negative = false
  upperNegative : upper.negative = false
  le : lower.magnitude ≤ upper.magnitude
  within : upper.IsWithin exponent

variable {left right lower upper : Binary64} {exponent leftExponent rightExponent : Nat}

theorem scaled_of_unsigned (hnegative : left.negative = false) : left.scaled = units left.magnitude :=
  by rw [scaled, hnegative, if_neg Bool.false_ne_true]

theorem value_of_unsigned (hnegative : left.negative = false) :
    left.value = units left.magnitude / unitsPerOne := by
  rw [value, scaled_of_unsigned hnegative, Int.cast_natCast]

theorem rank_of_unsigned (hnegative : left.negative = false) : left.rank = left.magnitude := by
  rw [rank, hnegative, if_neg Bool.false_ne_true]

theorem IsUnsigned.value_nonneg (hunsigned : left.IsUnsigned) : 0 ≤ left.value := by
  rw [value_of_unsigned hunsigned.negative]
  positivity

theorem Is.isUnsigned {number : ℚ} (his : left.Is number) (hnumber : 0 ≤ number) :
    left.IsUnsigned :=
  ⟨his.isFinite, his.negative.trans (decide_eq_false hnumber.not_gt)⟩

theorem ofScaled_natCast (amount : Nat) : ofScaled false amount = nearest false amount 1 := by
  rw [ofScaled]
  split
  · next hzero =>
    obtain rfl : amount = 0 := Int.natCast_eq_zero.1 hzero
    rfl
  · rw [Int.natAbs_natCast, decide_eq_false (Int.natCast_nonneg amount).not_gt]

namespace Ascends

theorem refl (hnegative : left.negative = false) (hwithin : left.IsWithin exponent) :
    Ascends exponent left left :=
  ⟨hnegative, hnegative, le_rfl, hwithin⟩

theorem lowerWithin (hascends : Ascends exponent lower upper) : lower.IsWithin exponent :=
  hascends.le.trans hascends.within

theorem mono {larger : Nat} (hascends : Ascends exponent lower upper) (hle : exponent ≤ larger) :
    Ascends larger lower upper :=
  { hascends with within := hascends.within.mono hle }

theorem isUnsigned (hascends : Ascends exponent lower upper) (hexponent : exponent < 1024) :
    upper.IsUnsigned :=
  ⟨hascends.within.isFinite hexponent, hascends.upperNegative⟩

theorem units_le (hascends : Ascends exponent lower upper) :
    units lower.magnitude ≤ units upper.magnitude :=
  units_strictMono.monotone hascends.le

theorem atMost (hascends : Ascends exponent lower upper) (hexponent : exponent < 1024) :
    AtMost lower upper where
  lowerFinite := hascends.lowerWithin.isFinite hexponent
  upperFinite := hascends.within.isFinite hexponent
  le := by
    rw [value_of_unsigned hascends.lowerNegative, value_of_unsigned hascends.upperNegative]
    exact div_le_div_of_nonneg_right (Nat.cast_le.2 hascends.units_le) (Nat.cast_nonneg _)

theorem rank_le (hascends : Ascends exponent lower upper) : lower.rank ≤ upper.rank := by
  rw [rank_of_unsigned hascends.lowerNegative, rank_of_unsigned hascends.upperNegative]
  exact Int.ofNat_le.2 hascends.le

end Ascends

theorem ascends_ofNat {fewer more : Nat} (hle : fewer ≤ more) (hmore : more ≤ 2 ^ exponent) :
    Ascends exponent (ofNat fewer) (ofNat more) where
  lowerNegative := decide_eq_false (Int.natCast_nonneg fewer).not_gt
  upperNegative := decide_eq_false (Int.natCast_nonneg more).not_gt
  le := by
    apply nearestMagnitude_mono Nat.one_pos Nat.one_pos
    rw [Int.natAbs_natCast, Int.natAbs_natCast]
    exact Nat.mul_le_mul_right _ (Nat.mul_le_mul_right _ hle)
  within := isWithin_ofNat hmore

/-! ## Operations -/

variable {left' right' : Binary64}

theorem Ascends.add (hleft : Ascends exponent left left') (hright : Ascends exponent right right')
    (hexponent : exponent < 1024) : Ascends (exponent + 1) (left + right) (left' + right') := by
  have hsum : ∀ {first second : Binary64}, first.negative = false → second.negative = false →
      first.IsWithin exponent → second.IsWithin exponent →
        first + second = nearest false (units first.magnitude + units second.magnitude) 1 := by
    intro first second hfirst hsecond hfirstWithin hsecondWithin
    rw [add_of_isFinite (hfirstWithin.isFinite hexponent) (hsecondWithin.isFinite hexponent),
      hfirst, Bool.false_and, scaled_of_unsigned hfirst, scaled_of_unsigned hsecond,
      ← Int.natCast_add, ofScaled_natCast]
  have hlower := hsum hleft.lowerNegative hright.lowerNegative hleft.lowerWithin hright.lowerWithin
  have hupper := hsum hleft.upperNegative hright.upperNegative hleft.within hright.within
  have hwithin := hleft.within.add hright.within hexponent
  rw [hupper] at hwithin
  rw [hlower, hupper]
  refine ⟨rfl, rfl, nearestMagnitude_mono Nat.one_pos Nat.one_pos ?_, hwithin⟩
  exact Nat.mul_le_mul_right 1 (Nat.add_le_add hleft.units_le hright.units_le)

theorem Ascends.mul (hleft : Ascends leftExponent left left')
    (hright : Ascends rightExponent right right') (hleftExponent : leftExponent < 1024)
    (hrightExponent : rightExponent < 1024) :
    Ascends (leftExponent + rightExponent) (left * right) (left' * right') := by
  have hlower : left * right =
      nearest false (units left.magnitude * units right.magnitude) unitsPerOne := by
    rw [mul_of_isFinite (hleft.lowerWithin.isFinite hleftExponent)
      (hright.lowerWithin.isFinite hrightExponent), hleft.lowerNegative, hright.lowerNegative,
      Bool.bne_false]
  have hupper : left' * right' =
      nearest false (units left'.magnitude * units right'.magnitude) unitsPerOne := by
    rw [mul_of_isFinite (hleft.within.isFinite hleftExponent)
      (hright.within.isFinite hrightExponent), hleft.upperNegative, hright.upperNegative,
      Bool.bne_false]
  have hwithin := hleft.within.mul hright.within hleftExponent hrightExponent
  rw [hupper] at hwithin
  rw [hlower, hupper]
  refine ⟨rfl, rfl, nearestMagnitude_mono unitsPerOne_pos unitsPerOne_pos ?_, hwithin⟩
  exact Nat.mul_le_mul_right _ (Nat.mul_le_mul hleft.units_le hright.units_le)

/-- Both are divided by one number that is at least one. -/
theorem Ascends.div (hascends : Ascends exponent lower upper) (hexponent : exponent < 1024)
    (hnegative : right.negative = false) (hright : right.IsWithin rightExponent)
    (hrightExponent : rightExponent < 1024) (hone : powerMagnitude 0 ≤ right.magnitude) :
    Ascends exponent (lower / right) (upper / right) := by
  have hnonzero : 0 < right.magnitude := lt_of_lt_of_le (by decide) hone
  have hunits : 0 < units right.magnitude :=
    (Nat.zero_le (units 0)).trans_lt (units_strictMono hnonzero)
  have hquotient : ∀ {double : Binary64}, double.negative = false → double.IsWithin exponent →
      double / right = nearest false (units double.magnitude * unitsPerOne)
        (units right.magnitude) := by
    intro double hdouble hwithin
    rw [div_of_isFinite (hwithin.isFinite hexponent) (hright.isFinite hrightExponent)
      (decide_eq_false hnonzero.ne'), hdouble, hnegative, Bool.bne_false]
  have hwithin := hascends.within.div hexponent hright hrightExponent hone
  rw [hquotient hascends.upperNegative hascends.within] at hwithin
  rw [hquotient hascends.lowerNegative hascends.lowerWithin,
    hquotient hascends.upperNegative hascends.within]
  refine ⟨rfl, rfl, nearestMagnitude_mono hunits hunits ?_, hwithin⟩
  exact Nat.mul_le_mul_right _ (Nat.mul_le_mul_right _ hascends.units_le)

theorem Ascends.roundHalvesToEven (hascends : Ascends exponent lower upper)
    (hexponent : exponent < 1024) :
    Ascends exponent lower.roundHalvesToEven upper.roundHalvesToEven := by
  have hwhole : lower.roundToWhole ≤ upper.roundToWhole := by
    rw [roundToWhole, roundToWhole]
    exact roundHalfEven_mono_left unitsPerOne hascends.units_le
  have hlower := roundHalvesToEven_of_isFinite (hascends.lowerWithin.isFinite hexponent)
  have hupper := roundHalvesToEven_of_isFinite (hascends.within.isFinite hexponent)
  have hwithin := hascends.within.roundHalvesToEven hexponent
  rw [hupper] at hwithin
  rw [hlower, hupper]
  constructor
  · rw [negative_nearest, hascends.lowerNegative]
  · rw [negative_nearest, hascends.upperNegative]
  · apply nearestMagnitude_mono Nat.one_pos Nat.one_pos
    rw [Nat.mul_one, Nat.mul_one]
    exact Nat.mul_le_mul_right unitsPerOne hwhole
  · exact hwithin

end MangaRecommender.Binary64
