import Mathlib
import MangaRecommender.Decimal.Reading
import MangaRecommender.Proofs.Binary64.Rounding

/-!
# The shortest decimal denotes its double

Reading a decimal rounds its exact value, whatever digits and exponent spell it.  The search for a
shortest decimal only answers decimals of the interval that rounds to the double, and on the grid
of seventeen digits one of the two neighbours lies in that interval, so the search always succeeds.
-/

namespace MangaRecommender.Decimal

open Binary64

/-! ## Reading depends on the value alone -/

/-- The exact value of a decimal. -/
def value (number : Decimal) : ℚ := number.digits * 10 ^ number.exponent

theorem ten_zpow (exponent : Int) :
    (10 : ℚ) ^ exponent = (10 ^ exponent.toNat : ℕ) / (10 ^ (-exponent).toNat : ℕ) := by
  rcases Int.le_total 0 exponent with hnonneg | hnonpos
  · lift exponent to ℕ using hnonneg
    simp
  · obtain ⟨opposite, rfl⟩ : ∃ opposite : ℕ, exponent = -opposite :=
      ⟨(-exponent).toNat, by omega⟩
    simp [zpow_neg]

/-- The nearest magnitude of no units at all is zero. -/
theorem nearestMagnitude_zero (denominator : Nat) : nearestMagnitude 0 denominator = 0 := by
  simp [nearestMagnitude_eq, unboundedMagnitude, roundHalfEven]

/-- An exponent far above the range only leaves infinity. -/
theorem nearestMagnitude_of_huge {digits exponent : Nat} (hdigits : digits ≠ 0)
    (hexponent : outOfRange < exponent) :
    nearestMagnitude (digits * 10 ^ exponent * unitsPerOne) 1 = infinityMagnitude := by
  have hlarge : units infinityMagnitude ≤ 10 ^ outOfRange * unitsPerOne := by decide +kernel
  refine (nearestMagnitude_le _ _).antisymm (le_nearestMagnitude_of_le Nat.one_pos le_rfl ?_)
  calc units infinityMagnitude * 1 = units infinityMagnitude := Nat.mul_one _
    _ ≤ 10 ^ outOfRange * unitsPerOne := hlarge
    _ ≤ digits * 10 ^ exponent * unitsPerOne := by
      refine Nat.mul_le_mul_right _ ?_
      calc 10 ^ outOfRange ≤ 10 ^ exponent := Nat.pow_le_pow_right (by decide) hexponent.le
        _ ≤ digits * 10 ^ exponent := Nat.le_mul_of_pos_left _ (Nat.pos_of_ne_zero hdigits)

/-- An exponent far below the range only leaves zero. -/
theorem nearestMagnitude_of_tiny {digits exponent : Nat}
    (hexponent : digits.log2 + outOfRange < exponent) :
    nearestMagnitude (digits * unitsPerOne) (10 ^ exponent) = 0 := by
  have hdigits : digits < 2 ^ (digits.log2 + 1) := Nat.lt_log2_self
  have hscale : 2 ^ 2 * unitsPerOne ≤ 10 ^ outOfRange := by decide +kernel
  have hsmall : 2 * (digits * unitsPerOne) < 10 ^ exponent := by
    calc 2 * (digits * unitsPerOne) < 2 * (2 ^ (digits.log2 + 1) * unitsPerOne) := by
          have := Nat.mul_lt_mul_of_pos_right hdigits unitsPerOne_pos
          omega
      _ = 2 ^ digits.log2 * (2 ^ 2 * unitsPerOne) := by
          generalize unitsPerOne = scale
          rw [pow_succ 2 digits.log2]
          ring
      _ ≤ 10 ^ digits.log2 * 10 ^ outOfRange :=
          Nat.mul_le_mul (Nat.pow_le_pow_left (by decide) _) hscale
      _ = 10 ^ (digits.log2 + outOfRange) := (pow_add 10 _ _).symm
      _ ≤ 10 ^ exponent := Nat.pow_le_pow_right (by decide) hexponent.le
  have hmagnitude : unboundedMagnitude (digits * unitsPerOne) (10 ^ exponent) = 0 * 2 ^ 52 +
      roundHalfEven (digits * unitsPerOne) (10 ^ exponent * 2 ^ 0) := by
    apply unboundedMagnitude_eq (Nat.pow_pos (by decide)) (.inl rfl)
    omega
  have hround : roundHalfEven (digits * unitsPerOne) (10 ^ exponent * 2 ^ 0) = 0 := by
    apply roundHalfEven_eq <;> omega
  rw [nearestMagnitude_eq, hmagnitude, hround]
  rfl

/-- Reading rounds the exact value once; the shortcuts for far exponents change nothing. -/
theorem toBinary64_eq_nearest (negative : Bool) (number : Decimal) :
    toBinary64 negative number =
      nearest negative (number.digits * 10 ^ number.exponent.toNat * unitsPerOne)
        (10 ^ (-number.exponent).toNat) := by
  simp only [toBinary64]
  split
  · next hzero => simp [nearest, hzero, nearestMagnitude_zero, signedZero]
  · next hdigits =>
    split
    · next hhuge =>
      have hnegative : (-number.exponent).toNat = 0 := by omega
      simp only [nearest, infinity, hnegative, pow_zero]
      congr 1
      exact (nearestMagnitude_of_huge hdigits (by omega)).symm
    · split
      · next htiny =>
        have hnonneg : number.exponent.toNat = 0 := by omega
        simp only [nearest, signedZero, hnonneg, pow_zero, Nat.mul_one]
        congr 1
        exact (nearestMagnitude_of_tiny (by omega)).symm
      · rfl

theorem value_eq_div (number : Decimal) :
    number.value = (number.digits * 10 ^ number.exponent.toNat : ℕ) /
      (10 ^ (-number.exponent).toNat : ℕ) := by
  rw [value, ten_zpow]
  push_cast
  ring

/-- Two spellings of one value are read as the same double. -/
theorem toBinary64_congr {left right : Decimal} (negative : Bool)
    (hvalue : left.value = right.value) :
    toBinary64 negative left = toBinary64 negative right := by
  rw [toBinary64_eq_nearest, toBinary64_eq_nearest]
  have hleft : 0 < 10 ^ (-left.exponent).toNat := Nat.pow_pos (by decide)
  have hright : 0 < 10 ^ (-right.exponent).toNat := Nat.pow_pos (by decide)
  rw [value_eq_div, value_eq_div, div_eq_div_iff (by positivity) (by positivity)] at hvalue
  have hcross : left.digits * 10 ^ left.exponent.toNat * 10 ^ (-right.exponent).toNat =
      right.digits * 10 ^ right.exponent.toNat * 10 ^ (-left.exponent).toNat := by
    exact_mod_cast hvalue
  refine nearest_congr negative hleft hright ?_
  generalize unitsPerOne = scale
  rw [Nat.mul_right_comm, hcross, Nat.mul_right_comm]

/-! ## The interval of a double -/

/-- What lies in the interval of a nonzero finite magnitude is read as that magnitude. -/
theorem nearestMagnitude_of_roundsTo {magnitude : Nat} {number : Decimal}
    (hpositive : 0 < magnitude) (hfinite : magnitude < infinityMagnitude)
    (hrounds : roundsTo magnitude number = true) :
    nearestMagnitude (number.digits * 10 ^ number.exponent.toNat * unitsPerOne)
      (10 ^ (-number.exponent).toNat) = magnitude := by
  obtain ⟨below, rfl⟩ : ∃ below, magnitude = below + 1 := ⟨magnitude - 1, by omega⟩
  simp only [roundsTo, Nat.add_sub_cancel, Nat.pow_eq] at hrounds
  have hdouble : number.digits * 10 ^ number.exponent.toNat * (2 * unitsPerOne) =
      2 * (number.digits * 10 ^ number.exponent.toNat * unitsPerOne) := by
    generalize unitsPerOne = scale
    ring
  rw [hdouble] at hrounds
  have hdenominator : 0 < 10 ^ (-number.exponent).toNat := Nat.pow_pos (by decide)
  suffices hnearest : unboundedMagnitude
      (number.digits * 10 ^ number.exponent.toNat * unitsPerOne)
      (10 ^ (-number.exponent).toNat) = below + 1 by
    rw [nearestMagnitude_eq, hnearest, Nat.min_eq_right hfinite.le]
  split at hrounds
  · obtain ⟨hlow, hhigh⟩ := of_decide_eq_true hrounds
    exact unboundedMagnitude_of_between hdenominator hlow hhigh (by omega)
  · obtain ⟨hlow, hhigh⟩ := of_decide_eq_true hrounds
    exact unboundedMagnitude_of_between hdenominator hlow.le hhigh.le fun _ => ⟨hlow, hhigh⟩

theorem value_trimZeros (fuel : Nat) (number : Decimal) :
    (trimZeros fuel number).value = number.value := by
  induction fuel generalizing number with
  | zero => rfl
  | succ fuel ih =>
    simp only [trimZeros]
    split
    · next hzero =>
      have hdigits : ((number.digits / 10 : ℕ) : ℚ) * 10 = number.digits := by
        exact_mod_cast Nat.div_mul_cancel (Nat.dvd_of_mod_eq_zero hzero)
      rw [ih, value, value, zpow_add_one₀ (by norm_num), ← hdigits]
      ring
    · rfl

theorem roundsTo_of_onGrid {magnitude : Nat} {exponent : Int} {number : Decimal}
    (hgrid : onGrid magnitude exponent = some number) : roundsTo magnitude number = true := by
  simp only [onGrid] at hgrid
  split at hgrid
  · cases hgrid
  · next hbelow _ => exact Option.some.inj hgrid ▸ hbelow
  · next _ habove => exact Option.some.inj hgrid ▸ habove
  · next hbelow habove =>
    split_ifs at hgrid
    · exact Option.some.inj hgrid ▸ hbelow
    · exact Option.some.inj hgrid ▸ habove
    · exact Option.some.inj hgrid ▸ hbelow
    · exact Option.some.inj hgrid ▸ habove

/-- A grid has a point of the interval if one of the two neighbours of the double is one. -/
theorem onGrid_isSome {magnitude : Nat} {exponent : Int}
    (hneighbour :
      roundsTo magnitude ⟨units magnitude * 10 ^ (-exponent).toNat /
        (unitsPerOne * 10 ^ exponent.toNat), exponent⟩ = true ∨
      roundsTo magnitude ⟨units magnitude * 10 ^ (-exponent).toNat /
        (unitsPerOne * 10 ^ exponent.toNat) + 1, exponent⟩ = true) :
    onGrid magnitude exponent ≠ none := by
  simp only [onGrid, Nat.pow_eq]
  split
  · next hbelow habove => simp only [hbelow, habove, Bool.false_eq_true, or_self] at hneighbour
  · exact Option.some_ne_none _
  · exact Option.some_ne_none _
  · split_ifs <;> exact Option.some_ne_none _

/-! ## Seventeen digits always suffice -/

theorem le_pow_leadingZeros {denominator fuel numerator : Nat}
    (hfuel : denominator ≤ 10 ^ fuel * numerator) :
    denominator ≤ 10 ^ (leadingZeros denominator fuel numerator + 1) * numerator := by
  induction fuel generalizing numerator with
  | zero =>
    simp only [leadingZeros]
    omega
  | succ fuel ih =>
    simp only [leadingZeros]
    split
    · next hplace => simpa using hplace
    · calc denominator
          ≤ 10 ^ (leadingZeros denominator fuel (10 * numerator) + 1) * (10 * numerator) := by
            refine ih (hfuel.trans_eq ?_)
            rw [pow_succ]
            ring
        _ = 10 ^ (leadingZeros denominator fuel (10 * numerator) + 1 + 1) * numerator := by
            rw [pow_succ 10 (leadingZeros denominator fuel (10 * numerator) + 1)]
            ring

/-- The place of the point is not too far to the right. -/
theorem pow_pointPlace_le {magnitude : Nat} (hpositive : 0 < units magnitude) :
    (10 : ℚ) ^ (pointPlace magnitude - 1) * unitsPerOne ≤ units magnitude := by
  simp only [pointPlace]
  split
  · next hwhole =>
    generalize hfuel : 324 = fuel
    have hrange : unitsPerOne ≤ 10 ^ fuel := by
      rw [← hfuel]
      decide +kernel
    have hzeros := le_pow_leadingZeros (hrange.trans (Nat.le_mul_of_pos_right _ hpositive))
    generalize leadingZeros unitsPerOne fuel (units magnitude) = zeros at hzeros ⊢
    rw [show -(zeros : Int) - 1 = -((zeros + 1 : ℕ) : Int) by push_cast; ring, zpow_neg,
      zpow_natCast, inv_mul_le_iff₀ (by positivity)]
    exact_mod_cast hzeros
  · next hwhole =>
    have hlength : 0 < (Nat.toDigits 10 (units magnitude / unitsPerOne)).length :=
      Nat.length_toDigits_pos
    have hdigits : 10 ^ ((Nat.toDigits 10 (units magnitude / unitsPerOne)).length - 1) ≤
        units magnitude / unitsPerOne := by
      refine Nat.le_of_not_lt fun hlt => ?_
      rcases Nat.eq_zero_or_pos ((Nat.toDigits 10 (units magnitude / unitsPerOne)).length - 1)
        with hzero | hmore
      · rw [hzero, pow_zero, Nat.lt_one_iff] at hlt
        exact hwhole hlt
      · have := (Nat.length_toDigits_le_iff (by decide) hmore).2 hlt
        omega
    generalize (Nat.toDigits 10 (units magnitude / unitsPerOne)).length = length at hlength hdigits ⊢
    rw [Nat.le_div_iff_mul_le unitsPerOne_pos] at hdigits
    rw [show (length : Int) - 1 = ((length - 1 : ℕ) : Int) by omega, zpow_natCast]
    exact_mod_cast hdigits

theorem roundsTo_of_lt {below digits : Nat} {exponent : Int}
    (hlow : (units below + units (below + 1)) * 10 ^ (-exponent).toNat <
      2 * (digits * (unitsPerOne * 10 ^ exponent.toNat)))
    (hhigh : 2 * (digits * (unitsPerOne * 10 ^ exponent.toNat)) <
      (units (below + 1) + units (below + 2)) * 10 ^ (-exponent).toNat) :
    roundsTo (below + 1) ⟨digits, exponent⟩ = true := by
  have hdouble : digits * 10 ^ exponent.toNat * (2 * unitsPerOne) =
      2 * (digits * (unitsPerOne * 10 ^ exponent.toNat)) := by
    generalize unitsPerOne = scale
    ring
  simp only [roundsTo, Nat.add_sub_cancel, Nat.pow_eq, hdouble]
  split
  · exact decide_eq_true ⟨hlow.le, hhigh.le⟩
  · exact decide_eq_true ⟨hlow, hhigh⟩

/-- On a grid with a spacing of at most the `10 ^ 16`-th part of the double, one of its two
neighbours rounds back to it. -/
theorem onGrid_ne_none {below : Nat} {exponent : Int}
    (hspacing : (10 : ℚ) ^ (exponent + 16) * unitsPerOne ≤ units (below + 1)) :
    onGrid (below + 1) exponent ≠ none := by
  have hspacing' : 10 ^ 16 * (unitsPerOne * 10 ^ exponent.toNat) ≤
      units (below + 1) * 10 ^ (-exponent).toNat := by
    rw [zpow_add₀ (by norm_num), ten_zpow exponent, div_mul_eq_mul_div, div_mul_eq_mul_div,
      div_le_iff₀ (by positivity)] at hspacing
    have : 10 ^ exponent.toNat * 10 ^ 16 * unitsPerOne ≤
        units (below + 1) * 10 ^ (-exponent).toNat := by
      exact_mod_cast hspacing
    refine le_trans (Nat.le_of_eq ?_) this
    generalize unitsPerOne = scale
    ring
  have hgrid : 0 < 10 ^ (-exponent).toNat := Nat.pow_pos (by decide)
  -- Either midpoint is at least half the spacing away from the double.
  have hmidLow := midpoint_below below (10 ^ (-exponent).toNat)
  have hmidHigh : (units (below + 1) + units (below + 2)) * 10 ^ (-exponent).toNat = _ :=
    midpoint_above (below + 1) (10 ^ (-exponent).toNat)
  have hlow := Nat.mul_le_mul_left (10 ^ (-exponent).toNat) (units_succ_le_mul_step below)
  have hhigh := Nat.mul_le_mul_left (10 ^ (-exponent).toNat) (units_le_mul_step (below + 1))
  rw [Nat.mul_comm _ (units (below + 1)), Nat.mul_left_comm] at hlow hhigh
  have hgapLow' := Nat.mul_pos hgrid (Nat.two_pow_pos (unitShift below))
  have hgapHigh' := Nat.mul_pos hgrid (Nat.two_pow_pos (unitShift (below + 1)))
  have hstep : 0 < unitsPerOne * 10 ^ exponent.toNat :=
    Nat.mul_pos unitsPerOne_pos (Nat.pow_pos (by decide))
  refine onGrid_isSome ?_
  generalize hstepEq : unitsPerOne * 10 ^ exponent.toNat = step at *
  generalize hnumerator : units (below + 1) * 10 ^ (-exponent).toNat = numerator at *
  have hsplit : numerator / step * step + numerator % step = numerator := Nat.div_add_mod' _ _
  have hremainder : numerator % step < step := Nat.mod_lt _ hstep
  rcases Nat.le_total (2 * (numerator % step)) step with hnear | hfar
  · left
    apply roundsTo_of_lt <;> rw [hstepEq] <;> omega
  · right
    have hnext : (numerator / step + 1) * step = numerator / step * step + step :=
      Nat.succ_mul _ _
    apply roundsTo_of_lt <;> rw [hstepEq, hnext] <;> omega

/-! ## The shortest decimal -/

theorem shortest_spec {magnitude : Nat} (hpositive : 0 < magnitude)
    (hfinite : magnitude < infinityMagnitude) :
    ∃ number, roundsTo magnitude number = true ∧ (shortest magnitude).value = number.value := by
  obtain ⟨below, rfl⟩ : ∃ below, magnitude = below + 1 := ⟨magnitude - 1, by omega⟩
  have hunits : 0 < units (below + 1) :=
    Nat.zero_lt_of_lt (units_strictMono (Nat.lt_succ_self below))
  have hspacing := pow_pointPlace_le hunits
  simp only [shortest]
  generalize pointPlace (below + 1) = place at hspacing ⊢
  cases hfound : (List.range 17).findSome? fun count =>
      onGrid (below + 1) (place - (count + 1 : Nat)) with
  | none =>
    have hlast := List.findSome?_eq_none_iff.1 hfound 16 (by decide)
    refine absurd hlast (onGrid_ne_none ?_)
    rwa [show place - ((16 + 1 : Nat) : Int) + 16 = place - 1 by push_cast; ring]
  | some number =>
    obtain ⟨count, -, hgrid⟩ := List.exists_of_findSome?_eq_some hfound
    exact ⟨number, roundsTo_of_onGrid hgrid, value_trimZeros 17 number⟩

/-- The shortest decimal of a nonzero finite double is read as that double. -/
theorem toBinary64_shortest (value : Binary64) (hzero : 0 < value.magnitude)
    (hfinite : value.magnitude < infinityMagnitude) :
    toBinary64 value.negative (shortest value.magnitude) = value := by
  obtain ⟨number, hrounds, hvalue⟩ := shortest_spec hzero hfinite
  rw [toBinary64_congr _ hvalue, toBinary64_eq_nearest]
  have := nearestMagnitude_of_roundsTo hzero hfinite hrounds
  simp only [nearest, this]

end MangaRecommender.Decimal
