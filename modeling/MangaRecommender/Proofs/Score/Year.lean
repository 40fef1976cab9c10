import Mathlib
import MangaRecommender.Proofs.Score.Terms

/-!
# The mean year and the points for it

The mean of years is taken with doubles and rounded to an integer, which is the one that the exact
mean is rounded to.  An integer that is within half of the mean of integers lies between two of
them, so the mean year is a year of the calendar as they are.  No year of a date is then far enough
from it for 32 bits to overflow, and the points for the distance are exact.
-/

namespace MangaRecommender

/-! ## Between the years -/

theorem length_mul_le_sum {years : List Int} {lower : Int} (hlower : ∀ year ∈ years, lower ≤ year) :
    years.length * lower ≤ years.sum := by
  simpa using List.card_nsmul_le_sum years lower hlower

theorem sum_le_length_mul {years : List Int} {upper : Int} (hupper : ∀ year ∈ years, year ≤ upper) :
    years.sum ≤ years.length * upper := by
  simpa using List.sum_le_card_nsmul years upper hupper

namespace IsRoundedMean

variable {years : List Int} {mean lower upper : Int}

theorem le_of_forall_le (hmean : IsRoundedMean years mean) (hyears : years ≠ [])
    (hlower : ∀ year ∈ years, lower ≤ year) : lower ≤ mean := by
  have hlength : (0 : ℚ) < years.length := Nat.cast_pos.2 (List.length_pos_of_ne_nil hyears)
  have hexact : (lower : ℚ) ≤ years.sum / years.length := by
    rw [le_div_iff₀ hlength, mul_comm]
    exact_mod_cast length_mul_le_sum hlower
  have hnear := (abs_le.1 hmean.1).1
  have hbelow : ((lower - 1 : Int) : ℚ) < mean := by
    push_cast
    linarith
  have hint : lower - 1 < mean := by exact_mod_cast hbelow
  omega

theorem le_of_forall_ge (hmean : IsRoundedMean years mean) (hyears : years ≠ [])
    (hupper : ∀ year ∈ years, year ≤ upper) : mean ≤ upper := by
  have hlength : (0 : ℚ) < years.length := Nat.cast_pos.2 (List.length_pos_of_ne_nil hyears)
  have hexact : (years.sum / years.length : ℚ) ≤ upper := by
    rw [div_le_iff₀ hlength, mul_comm]
    exact_mod_cast sum_le_length_mul hupper
  have hnear := (abs_le.1 hmean.1).2
  have habove : (mean : ℚ) < (upper + 1 : Int) := by
    push_cast
    linarith
  have hint : mean < upper + 1 := by exact_mod_cast habove
  omega

end IsRoundedMean

/-! ## Doubles that are one number -/

/-- Two doubles that are the same number are the same, zeros included. -/
theorem Binary64.Is.eq {left right : Binary64} {number : ℚ} (hleft : left.Is number)
    (hright : right.Is number) : left = right := by
  have hunits : Binary64.units left.magnitude = Binary64.units right.magnitude := by
    exact_mod_cast hleft.units.trans hright.units.symm
  have hmagnitude := Binary64.units_strictMono.injective hunits
  have hnegative := hleft.negative.trans hright.negative.symm
  cases left
  cases right
  simp only [Binary64.mk.injEq]
  exact ⟨hnegative, hmagnitude⟩

/-- A double that is a number is a constant exactly if they are the same number. -/
theorem Binary64.Is.eq_iff {double constant : Binary64} {number other : ℚ}
    (hdouble : double.Is number) (hconstant : constant.Is other) :
    double = constant ↔ number = other := by
  constructor
  · rintro rfl
    exact hdouble.value.symm.trans hconstant.value
  · rintro rfl
    exact hdouble.eq hconstant

/-! ## The points for a year -/

namespace Score

/-- How the year of a date is compared with the mean year of the seeds, in 32 bits, and what it is
worth. -/
structure IsExactYearTerm (date : CalendarDate) (mean : Int32) : Prop where
  difference : (Int32.ofInt date.year - mean).toInt = date.year - mean.toInt
  distance : (yearDistance (Int32.ofInt date.year) mean).toInt = |date.year - mean.toInt|
  points : (yearTerm (some date) (some mean)).Is (max 0 (5 - (|date.year - mean.toInt| : Int) / 2))
  most : yearTerm (some date) (some mean) = .ofNat 5 ↔ |date.year - mean.toInt| = 0
  least : yearTerm (some date) (some mean) = .signedZero false ↔ 10 ≤ |date.year - mean.toInt|

theorem isExactYearTerm (date : CalendarDate) {mean : Int32}
    (hmean : mean.toInt.natAbs ≤ 2 ^ 18) : IsExactYearTerm date mean := by
  have hyear := date.natAbs_year_le
  have hpoints : (yearTerm (some date) (some mean)).Is
      (max 0 (5 - (|date.year - mean.toInt| : Int) / 2)) := by
    have hterm := is_yearTerm date hmean
    rwa [← Int.cast_sub, ← Int.cast_abs] at hterm
  have hdistance : 0 ≤ |date.year - mean.toInt| := abs_nonneg _
  refine ⟨?_, toInt_yearDistance date hmean, hpoints, ?_, ?_⟩
  · rw [Int32.toInt_sub, date.toInt_ofInt_year]
    exact Int.bmod_eq_of_le (by omega) (by omega)
  · apply (hpoints.eq_iff is_nearnessCeiling).trans
    generalize |date.year - mean.toInt| = distance at hdistance
    have hnonneg : (0 : ℚ) ≤ distance := by exact_mod_cast hdistance
    constructor
    · intro hmost
      have hzero : (distance : ℚ) = 0 := by
        rcases max_choice (0 : ℚ) (5 - distance / 2) with hmax | hmax <;> linarith
      exact_mod_cast hzero
    · rintro rfl
      norm_num
  · rw [hpoints.eq_iff Binary64.is_signedZero, max_eq_left_iff, sub_nonpos, le_div_iff₀ two_pos]
    norm_num
    norm_cast

end Score

namespace Profile

/-- The mean year of a profile: the exact mean of its years, rounded to the nearest integer, a half
going to the even one.  No sum on the way there leaves 64 bits. -/
structure HasExactMeanYear (profile : Profile) (mean : Int32) : Prop where
  averageYear : profile.averageYear = some mean
  sums : ∀ count, ((profile.years.take count).map Int32.toInt).sum.natAbs < 2 ^ 63
  isRoundedMean : IsRoundedMean (profile.years.map Int32.toInt) mean.toInt
  between : ∃ earliest ∈ profile.years, ∃ latest ∈ profile.years,
    (∀ year ∈ profile.years, earliest ≤ year ∧ year ≤ latest) ∧ earliest ≤ mean ∧ mean ≤ latest

theorem exists_extremes {years : List Int32} (hyears : years ≠ []) :
    ∃ earliest ∈ years, ∃ latest ∈ years, ∀ year ∈ years, earliest ≤ year ∧ year ≤ latest := by
  have hsome : years.toFinset.Nonempty := List.toFinset_nonempty_iff years |>.2 hyears
  obtain ⟨earliest, hearliest, hleast⟩ := years.toFinset.exists_min_image Int32.toInt hsome
  obtain ⟨latest, hlatest, hgreatest⟩ := years.toFinset.exists_max_image Int32.toInt hsome
  refine ⟨earliest, List.mem_toFinset.1 hearliest, latest, List.mem_toFinset.1 hlatest, ?_⟩
  intro year hyear
  have hmem := List.mem_toFinset.2 hyear
  exact ⟨Int32.le_iff_toInt_le.2 (hleast year hmem), Int32.le_iff_toInt_le.2 (hgreatest year hmem)⟩

/-- The mean of a list of years, each a year of the calendar, is exact and lies between them, and
the points for its distance to the year of any date are exact too. -/
theorem mean_year_exact {profile : Profile} (hsome : profile.years ≠ [])
    (hfew : profile.years.length < 2 ^ 31) (hcalendar : ∀ year ∈ profile.years,
      CalendarDate.earliestYear ≤ year.toInt ∧ year.toInt ≤ CalendarDate.latestYear) :
    ∃ mean, profile.HasExactMeanYear mean ∧ ∀ date, Score.IsExactYearTerm date mean := by
  have hbound := natAbs_toInt_le hcalendar
  obtain ⟨mean, haverage, hmean, hsmall⟩ := averageYear_spec hsome (by omega) hbound
  have hints : profile.years.map Int32.toInt ≠ [] := by simpa using hsome
  obtain ⟨earliest, hearliest, latest, hlatest, hextremes⟩ := exists_extremes hsome
  refine ⟨mean, ⟨haverage, ?_, hmean, earliest, hearliest, latest, hlatest, hextremes, ?_, ?_⟩,
    fun date => Score.isExactYearTerm date hsmall⟩
  · intro count
    have hpart := natAbs_sum_le fun year hyear =>
      hbound year (List.map_subset _ (List.take_subset count _) hyear)
    have hlength : ((profile.years.take count).map Int32.toInt).length < 2 ^ 31 := by
      rw [List.length_map]
      exact (List.length_take_le' _ _).trans_lt hfew
    omega
  · refine Int32.le_iff_toInt_le.2 (hmean.le_of_forall_le hints ?_)
    simpa only [List.forall_mem_map] using fun year hyear =>
      Int32.le_iff_toInt_le.1 (hextremes year hyear).1
  · refine Int32.le_iff_toInt_le.2 (hmean.le_of_forall_ge hints ?_)
    simpa only [List.forall_mem_map] using fun year hyear =>
      Int32.le_iff_toInt_le.1 (hextremes year hyear).2

/-- The first and the last year of the calendar, whose mean lies half a year before the year zero. -/
def wholeCalendar : Profile := { empty with years := [-262143, 262142] }

theorem mean_year_exact_wholeCalendar :
    wholeCalendar.years ≠ [] ∧ wholeCalendar.years.length < 2 ^ 31 ∧
      (∀ year ∈ wholeCalendar.years,
        CalendarDate.earliestYear ≤ year.toInt ∧ year.toInt ≤ CalendarDate.latestYear) ∧
      wholeCalendar.averageYear = some 0 := by
  have hsome : wholeCalendar.years ≠ [] := List.cons_ne_nil _ _
  have hfew : wholeCalendar.years.length < 2 ^ 31 := by decide
  have hcalendar : ∀ year ∈ wholeCalendar.years,
      CalendarDate.earliestYear ≤ year.toInt ∧ year.toInt ≤ CalendarDate.latestYear := by
    intro year hyear
    rcases List.mem_pair.1 hyear with rfl | rfl <;> decide
  obtain ⟨mean, hexact, -⟩ := mean_year_exact hsome hfew hcalendar
  have hints : wholeCalendar.years.map Int32.toInt = [-262143, 262142] := by decide
  have hmean := hexact.isRoundedMean
  rw [hints, IsRoundedMean] at hmean
  norm_num at hmean
  obtain ⟨hnear, htie⟩ := hmean
  have hzero : mean = 0 := by
    have hlow : (-1 : ℚ) ≤ mean.toInt := by linarith [(abs_le.1 hnear).1]
    have hhigh : (mean.toInt : ℚ) ≤ 0 := by linarith [(abs_le.1 hnear).2]
    have hlowInt : -1 ≤ mean.toInt := by exact_mod_cast hlow
    have hhighInt : mean.toInt ≤ 0 := by exact_mod_cast hhigh
    -- of the two years that are equally near the mean only one is even
    have hodd : mean.toInt ≠ -1 := fun hodd => by norm_num [hodd] at htie
    exact Int32.toInt_inj.1 (by rw [Int32.toInt_zero]; omega)
  exact ⟨hsome, hfew, hcalendar, hzero ▸ hexact.averageYear⟩

end Profile

end MangaRecommender
