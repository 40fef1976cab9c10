import Mathlib
import MangaRecommender.Binary64.Rounding

/-!
# Rounding to doubles

A magnitude splits into a shift and a significand, and its successor stands one shifted unit
higher.  Rounding a quotient therefore depends on the quotient alone, is monotone, and answers a
magnitude exactly when the quotient lies between the midpoints to its two neighbours, where the
midpoints themselves belong to the even one.
-/

namespace MangaRecommender

/-! ## The nearest whole number -/

/-- A whole number within half a unit is the nearest one; at half a unit it must be even. -/
theorem roundHalfEven_eq {numerator denominator whole : Nat} (hpositive : 0 < denominator)
    (hlow : 2 * (whole * denominator) ≤ 2 * numerator + denominator)
    (hhigh : 2 * numerator ≤ 2 * (whole * denominator) + denominator)
    (hodd : whole % 2 = 1 →
      2 * (whole * denominator) < 2 * numerator + denominator ∧
        2 * numerator < 2 * (whole * denominator) + denominator) :
    roundHalfEven numerator denominator = whole := by
  have hsplit : denominator * (numerator / denominator) + numerator % denominator = numerator :=
    Nat.div_add_mod numerator denominator
  have hremainder : numerator % denominator < denominator := Nat.mod_lt _ hpositive
  rw [Nat.mul_comm] at hsplit
  simp only [roundHalfEven]
  generalize numerator / denominator = quotient at hsplit ⊢
  generalize numerator % denominator = remainder at hsplit hremainder ⊢
  have hquotient : quotient = whole ∨ quotient + 1 = whole := by
    rcases Nat.lt_trichotomy quotient whole with hlt | heq | hgt
    · refine .inr (Nat.le_antisymm hlt (Nat.le_of_not_lt fun hfar => ?_))
      have hproduct := Nat.mul_le_mul_right denominator hfar
      simp only [Nat.succ_eq_add_one, Nat.add_mul] at hproduct
      omega
    · exact .inl heq
    · have hproduct := Nat.mul_le_mul_right denominator hgt
      simp only [Nat.succ_eq_add_one, Nat.add_mul] at hproduct
      omega
  rcases hquotient with rfl | rfl
  · split_ifs <;> omega
  · simp only [Nat.add_mul, Nat.one_mul] at hlow hhigh hodd
    split_ifs <;> omega

theorem roundHalfEven_bounds (numerator denominator : Nat) :
    numerator / denominator ≤ roundHalfEven numerator denominator ∧
      roundHalfEven numerator denominator ≤ numerator / denominator + 1 := by
  simp only [roundHalfEven]
  split_ifs <;> omega

theorem le_roundHalfEven {numerator denominator whole : Nat} (hpositive : 0 < denominator)
    (hle : whole * denominator ≤ numerator) : whole ≤ roundHalfEven numerator denominator :=
  ((Nat.le_div_iff_mul_le hpositive).2 hle).trans (roundHalfEven_bounds _ _).1

theorem roundHalfEven_le {numerator denominator whole : Nat}
    (hle : numerator ≤ whole * denominator) : roundHalfEven numerator denominator ≤ whole := by
  rcases Nat.eq_zero_or_pos denominator with rfl | hpositive
  · obtain rfl : numerator = 0 := by simpa using hle
    simp [roundHalfEven]
  rcases hle.lt_or_eq with hlt | rfl
  · exact (roundHalfEven_bounds _ _).2.trans ((Nat.div_lt_iff_lt_mul hpositive).2 hlt)
  · simp [roundHalfEven, hpositive]

theorem roundHalfEven_mono_left {left right : Nat} (denominator : Nat) (hle : left ≤ right) :
    roundHalfEven left denominator ≤ roundHalfEven right denominator := by
  rcases (Nat.div_le_div_right (c := denominator) hle).lt_or_eq with hlt | heq
  · exact (roundHalfEven_bounds _ _).2.trans (hlt.trans_le (roundHalfEven_bounds _ _).1)
  · have hleft := Nat.div_add_mod left denominator
    have hright := Nat.div_add_mod right denominator
    rw [heq] at hleft
    simp only [roundHalfEven, heq]
    split_ifs <;> omega

theorem roundHalfEven_mul_right (numerator denominator : Nat) {factor : Nat}
    (hpositive : 0 < factor) :
    roundHalfEven (numerator * factor) (denominator * factor) =
      roundHalfEven numerator denominator := by
  have hbelow : 2 * (numerator % denominator * factor) < denominator * factor ↔
      2 * (numerator % denominator) < denominator := by
    rw [← Nat.mul_assoc, Nat.mul_lt_mul_right hpositive]
  have habove : denominator * factor < 2 * (numerator % denominator * factor) ↔
      denominator < 2 * (numerator % denominator) := by
    rw [← Nat.mul_assoc, Nat.mul_lt_mul_right hpositive]
  simp only [roundHalfEven, Nat.mul_div_mul_right _ _ hpositive, Nat.mul_mod_mul_right, hbelow,
    habove]

theorem roundHalfEven_mono {left right leftDenominator rightDenominator : Nat}
    (hleft : 0 < leftDenominator) (hright : 0 < rightDenominator)
    (hle : left * rightDenominator ≤ right * leftDenominator) :
    roundHalfEven left leftDenominator ≤ roundHalfEven right rightDenominator := by
  rw [← roundHalfEven_mul_right left leftDenominator hright,
    ← roundHalfEven_mul_right right rightDenominator hleft, Nat.mul_comm rightDenominator]
  exact roundHalfEven_mono_left _ hle

namespace Binary64

theorem unitsPerOne_pos : 0 < unitsPerOne := by
  rw [unitsPerOne]
  exact Nat.two_pow_pos 1074

/-! ## Magnitudes as shifted significands -/

/-- By how many binary places the significand of a magnitude is shifted. -/
def unitShift (magnitude : Nat) : Nat := magnitude / 2 ^ 52 - 1

def significand (magnitude : Nat) : Nat := magnitude - unitShift magnitude * 2 ^ 52

theorem shift_add_significand (magnitude : Nat) :
    unitShift magnitude * 2 ^ 52 + significand magnitude = magnitude := by
  simp only [unitShift, significand]
  omega

theorem significand_lt (magnitude : Nat) : significand magnitude < 2 ^ 53 := by
  simp only [unitShift, significand]
  omega

theorem units_eq (magnitude : Nat) :
    units magnitude = significand magnitude * 2 ^ unitShift magnitude := by
  unfold units
  split
  · next hsmall =>
    have hshift : unitShift magnitude = 0 := by
      rw [unitShift]
      omega
    rw [significand, hshift, Nat.zero_mul, Nat.sub_zero, pow_zero, Nat.mul_one]
  · next hlarge =>
    have hsignificand : 2 ^ 52 + magnitude % 2 ^ 52 = significand magnitude := by
      simp only [unitShift, significand]
      omega
    rw [hsignificand, Nat.shiftLeft_eq, unitShift]

/-- The next magnitude stands one shifted unit higher, also where it begins a binade. -/
theorem units_succ (magnitude : Nat) :
    units (magnitude + 1) = units magnitude + 2 ^ unitShift magnitude := by
  have hsplit := shift_add_significand magnitude
  have hlt := significand_lt magnitude
  rw [units_eq, units_eq magnitude]
  by_cases hcarry : significand magnitude + 1 = 2 ^ 53
  · have hshift : unitShift (magnitude + 1) = unitShift magnitude + 1 := by
      simp only [unitShift, significand] at hcarry hsplit ⊢
      omega
    have hsignificand : significand (magnitude + 1) = 2 ^ 52 := by
      simp only [significand, hshift]
      omega
    rw [hshift, hsignificand, show significand magnitude = 2 ^ 53 - 1 by omega,
      pow_succ 2 (unitShift magnitude)]
    have := Nat.two_pow_pos (unitShift magnitude)
    omega
  · have hshift : unitShift (magnitude + 1) = unitShift magnitude := by
      simp only [unitShift, significand] at hcarry hsplit ⊢
      omega
    have hsignificand : significand (magnitude + 1) = significand magnitude + 1 := by
      simp only [significand, hshift] at hsplit ⊢
      omega
    rw [hshift, hsignificand, Nat.add_mul, Nat.one_mul]

/-- The step to the next magnitude is at least the `2 ^ 53`-th part of either of them. -/
theorem units_le_mul_step (magnitude : Nat) :
    units magnitude ≤ 2 ^ 53 * 2 ^ unitShift magnitude := by
  rw [units_eq]
  exact Nat.mul_le_mul_right _ (significand_lt magnitude).le

theorem units_succ_le_mul_step (magnitude : Nat) :
    units (magnitude + 1) ≤ 2 ^ 53 * 2 ^ unitShift magnitude := by
  rw [units_succ, units_eq, ← Nat.succ_mul]
  exact Nat.mul_le_mul_right _ (Nat.succ_le_of_lt (significand_lt magnitude))

/-- The midpoint of a magnitude and the next is half a step below the next, both sides doubled. -/
theorem midpoint_below (below denominator : Nat) :
    (units below + units (below + 1)) * denominator + denominator * 2 ^ unitShift below =
      2 * (units (below + 1) * denominator) := by
  rw [units_succ]
  ring

/-- The same midpoint is half a step above the first of the two. -/
theorem midpoint_above (magnitude denominator : Nat) :
    (units magnitude + units (magnitude + 1)) * denominator =
      2 * (units magnitude * denominator) + denominator * 2 ^ unitShift magnitude := by
  rw [units_succ]
  ring

theorem units_strictMono : StrictMono units :=
  strictMono_nat_of_lt_succ fun magnitude => by
    have := Nat.two_pow_pos (unitShift magnitude)
    rw [units_succ]
    omega

/-- The magnitude of a power of two that is at least one. -/
def powerMagnitude (exponent : Nat) : Nat := (exponent + 1023) * 2 ^ 52

theorem units_powerMagnitude (exponent : Nat) :
    units (powerMagnitude exponent) = 2 ^ exponent * unitsPerOne := by
  have hshift : unitShift (powerMagnitude exponent) = exponent + 1022 := by
    simp only [unitShift, powerMagnitude]
    omega
  have hsignificand : significand (powerMagnitude exponent) = 2 ^ 52 := by
    rw [significand, hshift, powerMagnitude]
    exact Nat.sub_eq_of_eq_add (by ring)
  have hsum : 52 + (exponent + 1022) = exponent + 1074 := by omega
  rw [units_eq, hshift, hsignificand, ← pow_add, hsum, pow_add, unitsPerOne]

/-- From the second binade on, a number of binades is a power of two. -/
theorem units_add_binades {magnitude : Nat} (hnormal : 2 ^ 52 ≤ magnitude) (places : Nat) :
    units (magnitude + places * 2 ^ 52) = units magnitude * 2 ^ places := by
  have hshift : unitShift (magnitude + places * 2 ^ 52) = unitShift magnitude + places := by
    simp only [unitShift]
    omega
  have hsignificand : significand (magnitude + places * 2 ^ 52) = significand magnitude := by
    simp only [significand, hshift]
    omega
  rw [units_eq, units_eq, hshift, hsignificand, pow_add, Nat.mul_assoc]

theorem powerMagnitude_lt {exponent : Nat} (hexponent : exponent < 1024) :
    powerMagnitude exponent < infinityMagnitude := by
  simp only [powerMagnitude, infinityMagnitude]
  omega

/-! ## Rounding a quotient -/

/-- The shift of a quotient is the one that leaves it a significand, none if it is small. -/
theorem log2_sub_eq {numerator denominator shift : Nat} (hpositive : 0 < denominator)
    (hlow : shift = 0 ∨ 2 ^ 52 * (denominator * 2 ^ shift) ≤ numerator)
    (hhigh : numerator < 2 ^ 53 * (denominator * 2 ^ shift)) :
    (numerator / denominator).log2 - 52 = shift := by
  have hquotient : numerator / denominator < 2 ^ (shift + 53) := by
    rw [Nat.div_lt_iff_lt_mul hpositive, pow_add]
    calc numerator < 2 ^ 53 * (denominator * 2 ^ shift) := hhigh
      _ = 2 ^ shift * 2 ^ 53 * denominator := by ring
  rcases Nat.eq_zero_or_pos (numerator / denominator) with hzero | hnonzero
  · rcases hlow with rfl | hlow
    · simp [hzero]
    · have hsmall := (Nat.div_eq_zero_iff_lt hpositive).1 hzero
      have := Nat.le_mul_of_pos_right denominator (Nat.two_pow_pos shift)
      omega
  · have hupper := (Nat.log2_lt (Nat.pos_iff_ne_zero.1 hnonzero)).2 hquotient
    rcases hlow with rfl | hlow
    · omega
    · have hlower : shift + 52 ≤ (numerator / denominator).log2 := by
        rw [Nat.le_log2 (Nat.pos_iff_ne_zero.1 hnonzero), Nat.le_div_iff_mul_le hpositive, pow_add]
        calc 2 ^ shift * 2 ^ 52 * denominator = 2 ^ 52 * (denominator * 2 ^ shift) := by ring
          _ ≤ numerator := hlow
      omega

/-- The bounds that determine the shift of a quotient. -/
theorem log2_sub_bounds (numerator : Nat) {denominator : Nat} (hpositive : 0 < denominator) :
    ((numerator / denominator).log2 - 52 = 0 ∨
        2 ^ 52 * (denominator * 2 ^ ((numerator / denominator).log2 - 52)) ≤ numerator) ∧
      numerator < 2 ^ 53 * (denominator * 2 ^ ((numerator / denominator).log2 - 52)) := by
  generalize hlog : (numerator / denominator).log2 = log
  constructor
  · rcases Nat.le_total log 52 with hsmall | hlarge
    · exact .inl (by omega)
    · refine .inr ?_
      have hnonzero : numerator / denominator ≠ 0 := by
        intro hzero
        simp [hzero] at hlog
        omega
      have hlower := (Nat.le_log2 hnonzero).1 hlog.ge
      rw [Nat.le_div_iff_mul_le hpositive] at hlower
      calc 2 ^ 52 * (denominator * 2 ^ (log - 52)) = 2 ^ (log - 52) * 2 ^ 52 * denominator := by ring
        _ = 2 ^ log * denominator := by rw [← pow_add, Nat.sub_add_cancel hlarge]
        _ ≤ numerator := hlower
  · have hupper : numerator / denominator < 2 ^ (log + 1) := hlog ▸ Nat.lt_log2_self
    rw [Nat.div_lt_iff_lt_mul hpositive] at hupper
    calc numerator < 2 ^ (log + 1) * denominator := hupper
      _ ≤ 2 ^ (log - 52 + 53) * denominator :=
        Nat.mul_le_mul_right _ (Nat.pow_le_pow_right (by decide) (by omega))
      _ = 2 ^ 53 * (denominator * 2 ^ (log - 52)) := by ring

/-- The magnitude nearest to a quotient of units, as if there were no largest one. -/
def unboundedMagnitude (numerator denominator : Nat) : Nat :=
  let shift := (numerator / denominator).log2 - 52
  shift * 2 ^ 52 + roundHalfEven numerator (denominator * 2 ^ shift)

theorem nearestMagnitude_eq (numerator denominator : Nat) :
    nearestMagnitude numerator denominator =
      min infinityMagnitude (unboundedMagnitude numerator denominator) := by
  simp only [nearestMagnitude, unboundedMagnitude, Nat.shiftLeft_eq]

theorem unboundedMagnitude_eq {numerator denominator shift : Nat} (hpositive : 0 < denominator)
    (hlow : shift = 0 ∨ 2 ^ 52 * (denominator * 2 ^ shift) ≤ numerator)
    (hhigh : numerator < 2 ^ 53 * (denominator * 2 ^ shift)) :
    unboundedMagnitude numerator denominator =
      shift * 2 ^ 52 + roundHalfEven numerator (denominator * 2 ^ shift) := by
  simp only [unboundedMagnitude, log2_sub_eq hpositive hlow hhigh]

theorem unboundedMagnitude_mono {left right leftDenominator rightDenominator : Nat}
    (hleft : 0 < leftDenominator) (hright : 0 < rightDenominator)
    (hle : left * rightDenominator ≤ right * leftDenominator) :
    unboundedMagnitude left leftDenominator ≤ unboundedMagnitude right rightDenominator := by
  obtain ⟨hlow, hhigh⟩ := log2_sub_bounds left hleft
  obtain ⟨hlow', hhigh'⟩ := log2_sub_bounds right hright
  simp only [unboundedMagnitude]
  generalize (left / leftDenominator).log2 - 52 = shift at *
  generalize (right / rightDenominator).log2 - 52 = shift' at *
  rcases Nat.lt_trichotomy shift shift' with hlt | rfl | hgt
  · have hupper : roundHalfEven left (leftDenominator * 2 ^ shift) ≤ 2 ^ 53 :=
      roundHalfEven_le hhigh.le
    have hlower : 2 ^ 52 ≤ roundHalfEven right (rightDenominator * 2 ^ shift') :=
      le_roundHalfEven (Nat.mul_pos hright (Nat.two_pow_pos _)) (hlow'.resolve_left (by omega))
    omega
  · refine Nat.add_le_add_left (roundHalfEven_mono (Nat.mul_pos hleft (Nat.two_pow_pos _))
      (Nat.mul_pos hright (Nat.two_pow_pos _)) ?_) _
    simpa only [Nat.mul_assoc] using Nat.mul_le_mul_right (2 ^ shift) hle
  · exfalso
    have hbinade : 2 ^ 53 * 2 ^ shift' ≤ 2 ^ 52 * 2 ^ shift := by
      rw [← pow_add, ← pow_add]
      exact Nat.pow_le_pow_right (by decide) (by omega)
    refine absurd hle (Nat.not_le_of_lt ?_)
    calc right * leftDenominator
        < 2 ^ 53 * (rightDenominator * 2 ^ shift') * leftDenominator :=
          Nat.mul_lt_mul_of_pos_right hhigh' hleft
      _ = 2 ^ 53 * 2 ^ shift' * (leftDenominator * rightDenominator) := by ring
      _ ≤ 2 ^ 52 * 2 ^ shift * (leftDenominator * rightDenominator) :=
          Nat.mul_le_mul_right _ hbinade
      _ = 2 ^ 52 * (leftDenominator * 2 ^ shift) * rightDenominator := by ring
      _ ≤ left * rightDenominator :=
          Nat.mul_le_mul_right _ (hlow.resolve_left (by omega))

/-- Doubling a quotient that is not too small moves its magnitude by a binade. -/
theorem unboundedMagnitude_mul_two_pow {numerator denominator : Nat} (hpositive : 0 < denominator)
    (hnormal : 2 ^ 52 * denominator ≤ numerator) (places : Nat) :
    unboundedMagnitude (numerator * 2 ^ places) denominator =
      unboundedMagnitude numerator denominator + places * 2 ^ 52 := by
  obtain ⟨hlow, hhigh⟩ := log2_sub_bounds numerator hpositive
  generalize (numerator / denominator).log2 - 52 = shift at hlow hhigh
  have hscale : denominator * 2 ^ (shift + places) = denominator * 2 ^ shift * 2 ^ places := by
    rw [pow_add, Nat.mul_assoc]
  have hfloor : 2 ^ 52 * (denominator * 2 ^ shift) ≤ numerator := by
    rcases hlow with rfl | hlow
    · rwa [pow_zero, Nat.mul_one]
    · exact hlow
  have hshifted : unboundedMagnitude (numerator * 2 ^ places) denominator =
      (shift + places) * 2 ^ 52 +
        roundHalfEven (numerator * 2 ^ places) (denominator * 2 ^ (shift + places)) := by
    apply unboundedMagnitude_eq hpositive
    · right
      rw [hscale, ← Nat.mul_assoc]
      exact Nat.mul_le_mul_right _ hfloor
    · rw [hscale, ← Nat.mul_assoc]
      exact Nat.mul_lt_mul_of_pos_right hhigh (Nat.two_pow_pos places)
  rw [hshifted, unboundedMagnitude_eq hpositive hlow hhigh, hscale,
    roundHalfEven_mul_right _ _ (Nat.two_pow_pos places)]
  ring

/-- Around the first magnitude of a binade: quotients below it are still rounded in the binade
before, where the rounding carries to the same magnitude. -/
theorem unboundedMagnitude_of_first {numerator denominator shift : Nat}
    (hpositive : 0 < denominator)
    (hlow : 2 * (2 ^ 53 * (denominator * 2 ^ shift)) ≤ 2 * numerator + denominator * 2 ^ shift)
    (hhigh : numerator ≤ 2 ^ 53 * (denominator * 2 ^ shift) + denominator * 2 ^ shift) :
    unboundedMagnitude numerator denominator = shift * 2 ^ 52 + 2 ^ 53 := by
  have hunit := Nat.mul_pos hpositive (Nat.two_pow_pos shift)
  by_cases hfloor : 2 ^ 53 * (denominator * 2 ^ shift) ≤ numerator
  · have hdouble : denominator * 2 ^ (shift + 1) = 2 * (denominator * 2 ^ shift) := by
      rw [pow_succ]
      ring
    have hmagnitude : unboundedMagnitude numerator denominator = (shift + 1) * 2 ^ 52 +
        roundHalfEven numerator (denominator * 2 ^ (shift + 1)) := by
      apply unboundedMagnitude_eq hpositive <;> omega
    have hround : roundHalfEven numerator (denominator * 2 ^ (shift + 1)) = 2 ^ 52 := by
      rw [hdouble]
      apply roundHalfEven_eq <;> omega
    rw [hmagnitude, hround]
    ring
  · have hmagnitude : unboundedMagnitude numerator denominator = shift * 2 ^ 52 +
        roundHalfEven numerator (denominator * 2 ^ shift) := by
      apply unboundedMagnitude_eq hpositive <;> omega
    have hround : roundHalfEven numerator (denominator * 2 ^ shift) = 2 ^ 53 := by
      apply roundHalfEven_eq <;> omega
    rw [hmagnitude, hround]

/-- Between the midpoints to its neighbours a magnitude is the nearest one; a midpoint belongs to
the even magnitude. -/
theorem unboundedMagnitude_of_between {numerator denominator below : Nat}
    (hpositive : 0 < denominator)
    (hlow : (units below + units (below + 1)) * denominator ≤ 2 * numerator)
    (hhigh : 2 * numerator ≤ (units (below + 1) + units (below + 2)) * denominator)
    (hodd : below % 2 = 0 →
      (units below + units (below + 1)) * denominator < 2 * numerator ∧
        2 * numerator < (units (below + 1) + units (below + 2)) * denominator) :
    unboundedMagnitude numerator denominator = below + 1 := by
  have hsplit := shift_add_significand (below + 1)
  have hlt := significand_lt (below + 1)
  have hvalue : units (below + 1) * denominator =
      significand (below + 1) * (denominator * 2 ^ unitShift (below + 1)) := by
    rw [units_eq]
    ring
  have hmidLow := midpoint_below below denominator
  rw [midpoint_above (below + 1)] at hhigh hodd
  rw [hvalue] at hmidLow hhigh hodd
  have hunit := Nat.mul_pos hpositive (Nat.two_pow_pos (unitShift (below + 1)))
  have hbelow : numerator < 2 ^ 53 * (denominator * 2 ^ unitShift (below + 1)) := by
    have := Nat.mul_le_mul_right (denominator * 2 ^ unitShift (below + 1))
      (Nat.le_sub_one_of_lt hlt)
    omega
  have hshifts : unitShift below = unitShift (below + 1) ∧
        (unitShift (below + 1) = 0 ∨ 2 ^ 52 < significand (below + 1)) ∨
      unitShift (below + 1) = unitShift below + 1 ∧ significand (below + 1) = 2 ^ 52 := by
    simp only [unitShift, significand]
    omega
  rcases hshifts with ⟨hsame, hinside⟩ | ⟨hcarry, hfirst⟩
  · rw [hsame] at hmidLow
    have hfloor : unitShift (below + 1) = 0 ∨
        2 ^ 52 * (denominator * 2 ^ unitShift (below + 1)) ≤ numerator := by
      refine hinside.imp_right fun hinside => ?_
      have := Nat.mul_le_mul_right (denominator * 2 ^ unitShift (below + 1)) hinside
      omega
    rw [unboundedMagnitude_eq hpositive hfloor hbelow, roundHalfEven_eq hunit, hsplit]
    all_goals omega
  · have hdouble : denominator * 2 ^ unitShift (below + 1) =
        2 * (denominator * 2 ^ unitShift below) := by
      rw [hcarry, pow_succ]
      ring
    rw [hfirst, hdouble] at hmidLow hhigh
    have hmagnitude : unboundedMagnitude numerator denominator =
        unitShift below * 2 ^ 52 + 2 ^ 53 := by
      apply unboundedMagnitude_of_first hpositive <;> omega
    rw [hcarry, hfirst] at hsplit
    omega

theorem unboundedMagnitude_units (magnitude : Nat) :
    unboundedMagnitude (units magnitude) 1 = magnitude := by
  cases magnitude with
  | zero => decide
  | succ below =>
    have hbelow : units below < units (below + 1) := units_strictMono (Nat.lt_succ_self _)
    have habove : units (below + 1) < units (below + 2) := units_strictMono (Nat.lt_succ_self _)
    apply unboundedMagnitude_of_between Nat.one_pos <;> omega

/-! ## The nearest magnitude -/

theorem nearestMagnitude_mono {left right leftDenominator rightDenominator : Nat}
    (hleft : 0 < leftDenominator) (hright : 0 < rightDenominator)
    (hle : left * rightDenominator ≤ right * leftDenominator) :
    nearestMagnitude left leftDenominator ≤ nearestMagnitude right rightDenominator := by
  rw [nearestMagnitude_eq, nearestMagnitude_eq]
  exact min_le_min_left _ (unboundedMagnitude_mono hleft hright hle)

/-- Equal quotients have the same nearest magnitude. -/
theorem nearestMagnitude_congr {left right leftDenominator rightDenominator : Nat}
    (hleft : 0 < leftDenominator) (hright : 0 < rightDenominator)
    (heq : left * rightDenominator = right * leftDenominator) :
    nearestMagnitude left leftDenominator = nearestMagnitude right rightDenominator :=
  (nearestMagnitude_mono hleft hright heq.le).antisymm (nearestMagnitude_mono hright hleft heq.ge)

theorem nearest_congr (negative : Bool) {left right leftDenominator rightDenominator : Nat}
    (hleft : 0 < leftDenominator) (hright : 0 < rightDenominator)
    (heq : left * rightDenominator = right * leftDenominator) :
    nearest negative left leftDenominator = nearest negative right rightDenominator := by
  simp only [nearest, nearestMagnitude_congr hleft hright heq]

/-- A quotient that is a magnitude is not rounded. -/
theorem nearestMagnitude_units {magnitude : Nat} (hle : magnitude ≤ infinityMagnitude) :
    nearestMagnitude (units magnitude) 1 = magnitude := by
  rw [nearestMagnitude_eq, unboundedMagnitude_units, Nat.min_eq_right hle]

theorem nearestMagnitude_le_of_le {numerator denominator magnitude : Nat}
    (hpositive : 0 < denominator) (hle : numerator ≤ units magnitude * denominator) :
    nearestMagnitude numerator denominator ≤ magnitude := by
  rw [nearestMagnitude_eq]
  refine (Nat.min_le_right _ _).trans ?_
  rw [← unboundedMagnitude_units magnitude]
  exact unboundedMagnitude_mono hpositive Nat.one_pos (by simpa using hle)

theorem le_nearestMagnitude_of_le {numerator denominator magnitude : Nat}
    (hpositive : 0 < denominator) (hbound : magnitude ≤ infinityMagnitude)
    (hle : units magnitude * denominator ≤ numerator) :
    magnitude ≤ nearestMagnitude numerator denominator := by
  rw [← nearestMagnitude_units hbound]
  exact nearestMagnitude_mono Nat.one_pos hpositive (by simpa using hle)

end Binary64

end MangaRecommender
