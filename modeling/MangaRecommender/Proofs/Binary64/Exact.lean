import Mathlib
import MangaRecommender.Binary64.Arithmetic
import MangaRecommender.Proofs.Binary64.Finite
import MangaRecommender.Proofs.Binary64.Rounding

/-!
# Exact results

A double stands for a rational number.  A whole number of at most 53 bits, shifted by any number of
binary places, is a double, so an operation whose exact result has this form answers it unrounded.
A mean of few small integers is rounded by the division, but never across the half between two
integers, so that rounding it again to an integer gives what the exact mean would have given.
-/

namespace MangaRecommender

/-- The nearest whole number is within half a unit, and strictly so if it is odd. -/
theorem roundHalfEven_near (numerator : Nat) {denominator : Nat} (hpositive : 0 < denominator) :
    2 * (roundHalfEven numerator denominator * denominator) ≤ 2 * numerator + denominator ∧
      2 * numerator ≤ 2 * (roundHalfEven numerator denominator * denominator) + denominator ∧
      (roundHalfEven numerator denominator % 2 = 1 →
        2 * (roundHalfEven numerator denominator * denominator) < 2 * numerator + denominator ∧
        2 * numerator < 2 * (roundHalfEven numerator denominator * denominator) + denominator) := by
  have hsplit : numerator / denominator * denominator + numerator % denominator = numerator :=
    Nat.div_add_mod' numerator denominator
  have hremainder : numerator % denominator < denominator := Nat.mod_lt _ hpositive
  have hsucc : (numerator / denominator + 1) * denominator =
      numerator / denominator * denominator + denominator := Nat.succ_mul _ _
  simp only [roundHalfEven]
  split_ifs <;> omega

namespace Binary64

/-! ## Numbers that are doubles -/

theorem units_of_le {magnitude : Nat} (hle : magnitude ≤ 2 ^ 53) : units magnitude = magnitude := by
  rcases hle.lt_or_eq with hlt | rfl
  · have hshift : unitShift magnitude = 0 := by
      rw [unitShift]
      omega
    rw [units_eq, significand, hshift, pow_zero]
    omega
  · decide

/-- Twice the units of a magnitude are those of a magnitude at most one binade above. -/
theorem exists_units_two_mul (magnitude : Nat) :
    ∃ double ≤ magnitude + 2 ^ 52, units double = 2 * units magnitude := by
  by_cases hsmall : magnitude < 2 ^ 52
  · refine ⟨2 * magnitude, by omega, ?_⟩
    rw [units_of_le (by omega), units_of_le (by omega)]
  · refine ⟨magnitude + 2 ^ 52, le_rfl, ?_⟩
    have hdoubled := units_add_binades (not_lt.1 hsmall) 1
    rwa [Nat.one_mul, pow_one, Nat.mul_comm] at hdoubled

/-- A number of at most 53 bits, shifted up, has a magnitude. -/
theorem exists_units_eq {significand shift : Nat} (hsignificand : significand ≤ 2 ^ 53)
    (hshift : shift ≤ 2044) :
    ∃ magnitude < infinityMagnitude, units magnitude = significand * 2 ^ shift := by
  have hunbounded : ∃ magnitude ≤ 2 ^ 53 + shift * 2 ^ 52,
      units magnitude = significand * 2 ^ shift := by
    clear hshift
    induction shift with
    | zero => exact ⟨significand, by omega, by rw [units_of_le hsignificand, pow_zero, mul_one]⟩
    | succ shift ih =>
      obtain ⟨magnitude, hmagnitude, hunits⟩ := ih
      obtain ⟨double, hdouble, htwice⟩ := exists_units_two_mul magnitude
      refine ⟨double, by omega, ?_⟩
      rw [htwice, hunits, pow_succ 2 shift]
      ring
  obtain ⟨magnitude, hmagnitude, hunits⟩ := hunbounded
  refine ⟨magnitude, ?_, hunits⟩
  rw [infinityMagnitude]
  omega

/-- A quotient that is the number of units of a magnitude is not rounded. -/
theorem nearestMagnitude_eq_of_units {numerator denominator magnitude : Nat}
    (hpositive : 0 < denominator) (hle : magnitude ≤ infinityMagnitude)
    (heq : numerator = units magnitude * denominator) :
    nearestMagnitude numerator denominator = magnitude := by
  rw [← nearestMagnitude_units hle]
  exact nearestMagnitude_congr hpositive Nat.one_pos (by rw [Nat.mul_one, heq])

/-- The number that a finite double stands for. -/
def value (double : Binary64) : ℚ := double.scaled / unitsPerOne

/-- The double is the given number, with its sign; a zero is the positive one. -/
structure Is (double : Binary64) (number : ℚ) : Prop where
  isFinite : double.isFinite = true
  value : double.value = number
  negative : double.negative = decide (number < 0)

/-- The number is that of some double. -/
def IsRepresentable (number : ℚ) : Prop :=
  ∃ double : Binary64, double.isFinite = true ∧ double.value = number

theorem unitsPerOne_split {places : Nat} (hplaces : places ≤ 1074) :
    unitsPerOne = 2 ^ places * 2 ^ (1074 - places) := by
  rw [← Nat.pow_add, Nat.add_sub_cancel' hplaces, unitsPerOne]

theorem unitsPerOne_ne_zero : (unitsPerOne : ℚ) ≠ 0 :=
  Nat.cast_ne_zero.2 unitsPerOne_pos.ne'

theorem abs_scaled (double : Binary64) : |(double.scaled : ℚ)| = units double.magnitude := by
  rw [scaled]
  split <;> simp

/-- A fraction of 53 bits over a power of two. -/
theorem isRepresentable_of_dyadic {numerator : Int} {places : Nat}
    (hnumerator : numerator.natAbs ≤ 2 ^ 53) (hplaces : places ≤ 1074) :
    IsRepresentable (numerator / 2 ^ places) := by
  obtain ⟨magnitude, hfinite, hunits⟩ :=
    exists_units_eq hnumerator (show 1074 - places ≤ 2044 by omega)
  have hunitsQ : (units magnitude : ℚ) = numerator.natAbs * 2 ^ (1074 - places) := by
    rw [hunits, Nat.cast_mul, Nat.cast_pow, Nat.cast_ofNat]
  refine ⟨⟨decide (numerator < 0), magnitude, hfinite.trans infinityMagnitude_lt⟩,
    decide_eq_true hfinite, ?_⟩
  have hscaled : ((⟨decide (numerator < 0), magnitude, hfinite.trans infinityMagnitude_lt⟩ :
      Binary64).scaled : ℚ) = numerator * 2 ^ (1074 - places) := by
    by_cases hnegative : numerator < 0
    · simp only [scaled, hnegative, decide_true, if_true, Int.cast_neg, Int.cast_natCast, hunitsQ,
        Nat.cast_natAbs, abs_of_neg hnegative]
      ring
    · simp only [scaled, hnegative, decide_false, Bool.false_eq_true, if_false, Int.cast_natCast,
        hunitsQ, Nat.cast_natAbs, abs_of_nonneg (not_lt.1 hnegative)]
  rw [value, hscaled, unitsPerOne_split hplaces, Nat.cast_mul, Nat.cast_pow, Nat.cast_pow,
    Nat.cast_ofNat]
  have hpow : (2 : ℚ) ^ (1074 - places) ≠ 0 := by positivity
  rw [mul_div_mul_right _ _ hpow]

/-! ## Operations -/

/-- Rounding a quotient of units that is a number of a double gives that number. -/
theorem is_nearest {negative : Bool} {numerator denominator : Nat} {number : ℚ}
    (hpositive : 0 < denominator)
    (hquotient : (numerator : ℚ) = |number| * unitsPerOne * denominator)
    (hnegative : negative = decide (number < 0)) (hnumber : IsRepresentable number) :
    (nearest negative numerator denominator).Is number := by
  obtain ⟨double, hfinite, rfl⟩ := hnumber
  have hlt : double.magnitude < infinityMagnitude := of_decide_eq_true hfinite
  have habs : |double.value| * unitsPerOne = units double.magnitude := by
    rw [value, abs_div, abs_scaled, Nat.abs_cast, div_mul_cancel₀ _ unitsPerOne_ne_zero]
  have hmagnitude : nearestMagnitude numerator denominator = double.magnitude := by
    apply nearestMagnitude_eq_of_units hpositive hlt.le
    rw [habs] at hquotient
    exact_mod_cast hquotient
  refine ⟨?_, ?_, hnegative⟩
  · simpa only [Binary64.isFinite, nearest, hmagnitude, decide_eq_true_iff] using hlt
  · have hscaled : ((nearest negative numerator denominator).scaled : ℚ) = double.scaled := by
      have hvalue : double.value < 0 ↔ (double.scaled : ℚ) < 0 := by
        rw [value, div_lt_iff₀ (by exact_mod_cast unitsPerOne_pos), zero_mul]
      have hunits := abs_scaled double
      by_cases hsign : (double.scaled : ℚ) < 0
      · rw [abs_of_neg hsign] at hunits
        simp only [scaled, nearest, hnegative, hvalue.2 hsign, decide_true, if_true, hmagnitude,
          Int.cast_neg, Int.cast_natCast, ← hunits, neg_neg]
      · rw [abs_of_nonneg (not_lt.1 hsign)] at hunits
        simp only [scaled, nearest, hnegative, mt hvalue.1 hsign, decide_false,
          Bool.false_eq_true, if_false, hmagnitude, Int.cast_natCast, ← hunits]
    rw [value, hscaled, value]

variable {left right double : Binary64} {first second number : ℚ}

namespace Is

theorem scaled (his : double.Is number) : (double.scaled : ℚ) = number * unitsPerOne := by
  rw [← his.value, Binary64.value, div_mul_cancel₀ _ unitsPerOne_ne_zero]

theorem units (his : double.Is number) : (units double.magnitude : ℚ) = |number| * unitsPerOne := by
  rw [← abs_scaled, his.scaled, abs_mul, Nat.abs_cast]

end Is

theorem is_signedZero : (signedZero false).Is 0 where
  isFinite := by decide
  value := by rw [value, show (signedZero false).scaled = 0 from rfl, Int.cast_zero, zero_div]
  negative := rfl

theorem is_ofFraction {numerator : Int} {denominator : Nat} (hpositive : 0 < denominator)
    (hnumber : IsRepresentable (numerator / denominator)) :
    (ofFraction numerator denominator).Is (numerator / denominator) := by
  have hdenominator : (0 : ℚ) < denominator := Nat.cast_pos.2 hpositive
  rw [ofFraction]
  apply is_nearest hpositive _ _ hnumber
  · rw [abs_div, Nat.abs_cast, Nat.cast_mul, Nat.cast_natAbs, Int.cast_abs,
      div_mul_eq_mul_div, div_mul_cancel₀ _ hdenominator.ne']
  · simp only [div_neg_iff, hdenominator, hdenominator.not_gt, Int.cast_lt_zero, and_true,
      and_false, false_or]

theorem isRepresentable_intCast {integer : Int} (hle : integer.natAbs ≤ 2 ^ 53) :
    IsRepresentable integer := by
  simpa using isRepresentable_of_dyadic hle (Nat.zero_le 1074)

theorem is_ofInt {integer : Int} (hle : integer.natAbs ≤ 2 ^ 53) : (ofInt integer).Is integer := by
  have hnumber : IsRepresentable ((integer : ℚ) / (1 : ℕ)) := by
    simpa using isRepresentable_intCast hle
  simpa [ofInt] using is_ofFraction Nat.one_pos hnumber

theorem is_ofNat {natural : Nat} (hle : natural ≤ 2 ^ 53) : (ofNat natural).Is natural := by
  have hinteger : (natural : Int).natAbs ≤ 2 ^ 53 := by simpa using hle
  simpa [ofInt, ofNat] using is_ofInt hinteger

/-- A product that is a double is exact. -/
theorem Is.mul (hleft : left.Is first) (hright : right.Is second) (hfirst : 0 ≤ first)
    (hsecond : 0 ≤ second) (hnumber : IsRepresentable (first * second)) :
    (left * right).Is (first * second) := by
  rw [mul_of_isFinite hleft.isFinite hright.isFinite, hleft.negative, hright.negative,
    decide_eq_false hfirst.not_gt, decide_eq_false hsecond.not_gt, Bool.bne_false]
  apply is_nearest unitsPerOne_pos _ _ hnumber
  · rw [Nat.cast_mul, hleft.units, hright.units, abs_mul]
    ring
  · exact (decide_eq_false (mul_nonneg hfirst hsecond).not_gt).symm

/-- A difference of numbers that are not negative is exact if it is a double. -/
theorem Is.sub (hleft : left.Is first) (hright : right.Is second) (hfirst : 0 ≤ first)
    (hsecond : 0 ≤ second) (hnumber : IsRepresentable (first - second)) :
    (left - right).Is (first - second) := by
  have hrightScaled : ((neg right).scaled : ℚ) = -(second * unitsPerOne) := by
    rw [← hright.scaled]
    simp [Binary64.scaled, neg, hright.negative, hsecond.not_gt]
  have hnegated : (neg right).isFinite = true := hright.isFinite
  have hdifference : left - right =
      ofScaled (left.negative && (neg right).negative) (left.scaled + (neg right).scaled) :=
    add_of_isFinite hleft.isFinite hnegated
  have hsum : ((left.scaled + (neg right).scaled : Int) : ℚ) =
      (first - second) * unitsPerOne := by
    rw [Int.cast_add, hleft.scaled, hrightScaled]
    ring
  have hscale : (0 : ℚ) < unitsPerOne := Nat.cast_pos.2 unitsPerOne_pos
  rw [hdifference, hleft.negative, decide_eq_false hfirst.not_gt, Bool.false_and]
  generalize left.scaled + (neg right).scaled = amount at hsum ⊢
  generalize first - second = difference at *
  rw [ofScaled]
  split
  · next hzero =>
    rw [hzero, Int.cast_zero, zero_eq_mul, or_iff_left unitsPerOne_ne_zero] at hsum
    exact hsum ▸ is_signedZero
  · apply is_nearest Nat.one_pos _ _ hnumber
    · rw [Nat.cast_natAbs, Int.cast_abs, hsum, abs_mul, Nat.abs_cast, Nat.cast_one, mul_one]
    · rw [decide_eq_decide, ← Int.cast_lt_zero (R := ℚ), hsum]
      simp only [mul_neg_iff, hscale, hscale.not_gt, and_true, and_false, false_or]

theorem Is.positivePart (his : double.Is number) : double.positivePart.Is (max 0 number) := by
  rw [Binary64.positivePart, not_isNaN_of_isFinite his.isFinite, his.negative, Bool.false_or]
  by_cases hnegative : number < 0
  · rw [if_pos (decide_eq_true hnegative), max_eq_left hnegative.le]
    exact is_signedZero
  · rw [decide_eq_false hnegative, if_neg Bool.false_ne_true, max_eq_right (not_lt.1 hnegative)]
    exact his

/-! ## Means of small integers -/

/-- The quotient of two integers of 53 bits is rounded once. -/
theorem ofInt_div_ofNat {integer : Int} {natural : Nat} (hinteger : integer.natAbs ≤ 2 ^ 53)
    (hpositive : 0 < natural) (hnatural : natural ≤ 2 ^ 53) :
    ofInt integer / ofNat natural =
      nearest (decide (integer < 0)) (integer.natAbs * unitsPerOne) natural := by
  have hleft := is_ofInt hinteger
  have hright := is_ofNat hnatural
  have hleftUnits : units (ofInt integer).magnitude = integer.natAbs * unitsPerOne := by
    have hunits := hleft.units
    rw [← Int.cast_abs, ← Nat.cast_natAbs] at hunits
    exact_mod_cast hunits
  have hrightUnits : units (ofNat natural).magnitude = natural * unitsPerOne := by
    have hunits := hright.units
    rw [Nat.abs_cast] at hunits
    exact_mod_cast hunits
  have hunitsPos : 0 < natural * unitsPerOne := Nat.mul_pos hpositive unitsPerOne_pos
  have hzero : (ofNat natural).isZero = false := by
    refine decide_eq_false fun hzero => ?_
    rw [hzero] at hrightUnits
    exact absurd hrightUnits hunitsPos.ne
  rw [div_of_isFinite hleft.isFinite hright.isFinite hzero, hleft.negative, hright.negative,
    decide_eq_false (Nat.cast_nonneg natural).not_gt, Bool.bne_false, hleftUnits, hrightUnits]
  simp only [Int.cast_lt_zero]
  apply nearest_congr _ hunitsPos hpositive
  generalize unitsPerOne = scale
  ring

/-- Between two numbers of 53 bits a quotient is rounded to something between them. -/
theorem units_nearestMagnitude_le {numerator denominator significand shift : Nat}
    (hpositive : 0 < denominator) (hsignificand : significand ≤ 2 ^ 53) (hshift : shift ≤ 2044)
    (hle : numerator ≤ significand * 2 ^ shift * denominator) :
    units (nearestMagnitude numerator denominator) ≤ significand * 2 ^ shift := by
  obtain ⟨magnitude, -, hunits⟩ := exists_units_eq hsignificand hshift
  rw [← hunits] at hle ⊢
  exact units_strictMono.monotone (nearestMagnitude_le_of_le hpositive hle)

theorem le_units_nearestMagnitude {numerator denominator significand shift : Nat}
    (hpositive : 0 < denominator) (hsignificand : significand ≤ 2 ^ 53) (hshift : shift ≤ 2044)
    (hle : significand * 2 ^ shift * denominator ≤ numerator) :
    significand * 2 ^ shift ≤ units (nearestMagnitude numerator denominator) := by
  obtain ⟨magnitude, hfinite, hunits⟩ := exists_units_eq hsignificand hshift
  rw [← hunits] at hle ⊢
  exact units_strictMono.monotone (le_nearestMagnitude_of_le hpositive hfinite.le hle)

/-- Rounding a mean of small integers to a double first makes no difference to the integer that it
is rounded to.  A mean below a half differs from it by the denominator at least, and so much below
the half there still is a double. -/
theorem roundHalfEven_units_nearestMagnitude {numerator denominator : Nat}
    (hpositive : 0 < denominator) (hdenominator : denominator ≤ 2 ^ 32)
    (hnumerator : numerator ≤ 2 ^ 19 * denominator) :
    roundHalfEven (units (nearestMagnitude (numerator * unitsPerOne) denominator)) unitsPerOne =
      roundHalfEven numerator denominator := by
  obtain ⟨shift, hshift, hscale⟩ : ∃ shift ≤ 2044, unitsPerOne = 2 ^ 33 * 2 ^ shift :=
    ⟨1074 - 33, by decide, unitsPerOne_split (by decide)⟩
  have hupper : ∀ significand ≤ 2 ^ 53, 2 ^ 33 * numerator ≤ significand * denominator →
      units (nearestMagnitude (numerator * unitsPerOne) denominator) ≤ significand * 2 ^ shift := by
    intro significand hsignificand hle
    apply units_nearestMagnitude_le hpositive hsignificand hshift
    rw [hscale]
    calc numerator * (2 ^ 33 * 2 ^ shift) = 2 ^ 33 * numerator * 2 ^ shift := by ring
      _ ≤ significand * denominator * 2 ^ shift := Nat.mul_le_mul_right _ hle
      _ = significand * 2 ^ shift * denominator := Nat.mul_right_comm _ _ _
  have hlower : ∀ significand ≤ 2 ^ 53, significand * denominator ≤ 2 ^ 33 * numerator →
      significand * 2 ^ shift ≤ units (nearestMagnitude (numerator * unitsPerOne) denominator) := by
    intro significand hsignificand hle
    apply le_units_nearestMagnitude hpositive hsignificand hshift
    rw [hscale]
    calc significand * 2 ^ shift * denominator
        = significand * denominator * 2 ^ shift := Nat.mul_right_comm _ _ _
      _ ≤ 2 ^ 33 * numerator * 2 ^ shift := Nat.mul_le_mul_right _ hle
      _ = numerator * (2 ^ 33 * 2 ^ shift) := by ring
  obtain ⟨hlow, hhigh, hodd⟩ := roundHalfEven_near numerator hpositive
  have hwhole : roundHalfEven numerator denominator ≤ 2 ^ 19 := roundHalfEven_le hnumerator
  generalize units (nearestMagnitude (numerator * unitsPerOne) denominator) = rounded at *
  generalize roundHalfEven numerator denominator = whole at *
  have hgrain := Nat.two_pow_pos shift
  rw [hscale]
  generalize 2 ^ shift = grain at *
  -- the halves next to the whole number, and what lies just inside of them
  have hhalfAbove := hupper (2 ^ 33 * whole + 2 ^ 32) (by omega)
  have hbelowHalf := hupper (2 ^ 33 * whole + 2 ^ 32 - 1) (by omega)
  have hhalfBelow := hlower (2 ^ 33 * whole - 2 ^ 32) (by omega)
  have haboveHalf := hlower (2 ^ 33 * whole - 2 ^ 32 + 1) (by omega)
  have hproduct : 2 ^ 33 * whole * denominator = 2 ^ 33 * (whole * denominator) := by ring
  have hproduct' : 2 ^ 33 * whole * grain = 2 ^ 33 * (whole * grain) := by ring
  have htarget : whole * (2 ^ 33 * grain) = 2 ^ 33 * (whole * grain) := by ring
  simp only [Nat.add_mul, Nat.sub_mul, Nat.one_mul, hproduct, hproduct'] at *
  have hunit := Nat.mul_pos (Nat.two_pow_pos 33) hgrain
  rcases Nat.eq_zero_or_pos whole with rfl | hone
  · apply roundHalfEven_eq hunit <;> omega
  · have hdenominatorLe := Nat.le_mul_of_pos_left denominator hone
    have hgrainLe := Nat.le_mul_of_pos_left grain hone
    apply roundHalfEven_eq hunit <;> omega

end Binary64

end MangaRecommender
