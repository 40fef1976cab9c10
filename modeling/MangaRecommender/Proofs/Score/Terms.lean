import Mathlib
import MangaRecommender.Proofs.Binary64.Exact
import MangaRecommender.Proofs.Profile.Frequencies
import MangaRecommender.Score

/-!
# The exact terms of a score

The points for attributes, authors and years are computed without a rounding that shows: each of
them is a fraction of few bits, and the mean year is the integer nearest to the exact mean of the
years.  Only ratings are doubles from the start.
-/

namespace MangaRecommender

/-! ## The attributes of a manga -/

namespace AttributeIndex

variable {manga wanted : Int32}

theorem mem_attributesOf_addLink {index : AttributeIndex} {link : Link} :
    wanted ∈ (index.addLink link).attributesOf manga ↔
      (manga, wanted) = link ∨ wanted ∈ index.attributesOf manga := by
  obtain ⟨linked, added⟩ := link
  rw [attributesOf, addLink, IdMap.get?_update, Prod.mk.injEq]
  by_cases hmanga : manga = linked
  · subst hmanga
    rw [if_pos rfl, Option.map_some, Option.getD_some, IdSet.insert, IdMap.mem_keys_update,
      attributesOf]
    cases index.get? manga <;> simp [IdMap.keys, IdMap.empty]
  · simp [hmanga, attributesOf]

theorem mem_attributesOf_foldl {links : List Link} {index : AttributeIndex} :
    wanted ∈ (links.foldl addLink index).attributesOf manga ↔
      (manga, wanted) ∈ links ∨ wanted ∈ index.attributesOf manga := by
  induction links generalizing index with
  | nil => simp
  | cons link rest ih =>
    rw [List.foldl_cons, ih, mem_attributesOf_addLink, List.mem_cons, or_assoc]
    exact or_left_comm

/-- A manga has the attributes that some row links to it. -/
theorem mem_attributesOf_ofLinks {links : List Link} :
    wanted ∈ (ofLinks links).attributesOf manga ↔ (manga, wanted) ∈ links := by
  have hempty : wanted ∉ attributesOf IdMap.empty manga := List.not_mem_nil
  rw [ofLinks, mem_attributesOf_foldl, or_iff_left hempty]

theorem ascending_attributesOf (index : AttributeIndex) (manga : Int32) :
    (index.attributesOf manga).Pairwise (· < ·) := by
  rw [attributesOf]
  cases index.get? manga with
  | none => exact .nil
  | some attributes => exact attributes.ascending_keys

theorem nodup_attributesOf (index : AttributeIndex) (manga : Int32) :
    (index.attributesOf manga).Nodup :=
  (index.ascending_attributesOf manga).imp fun hlt => Int32.ne_of_lt hlt

/-- A manga has the same attributes whichever manga they are loaded with. -/
theorem attributesOf_filter {links : List Link} {ids : List Int32}
    (hmanga : manga ∈ ids) :
    (ofLinks (links.filter fun link => ids.contains link.1)).attributesOf manga =
      (ofLinks links).attributesOf manga := by
  refine (ascending_attributesOf _ manga).eq_of_mem_iff (ascending_attributesOf _ manga) ?_
  intro wanted
  rw [mem_attributesOf_ofLinks, mem_attributesOf_ofLinks, List.mem_filter,
    and_iff_left (List.contains_iff_mem.2 hmanga)]

end AttributeIndex

/-! ## The mean year -/

/-- The integer nearest to the mean of some years, the even one of two that are equally near. -/
def IsRoundedMean (years : List Int) (mean : Int) : Prop :=
  |mean - (years.sum / years.length : ℚ)| ≤ 1 / 2 ∧
    (|mean - (years.sum / years.length : ℚ)| = 1 / 2 → Even mean)

/-- A number that takes the sign of a sum is as far from the mean as without the signs. -/
theorem abs_sub_mean {years : List Int} (hyears : years ≠ []) (whole : Nat) :
    |((if years.sum < 0 then -(whole : Int) else whole : Int) : ℚ) -
        years.sum / years.length| =
      |(whole : ℚ) * years.length - years.sum.natAbs| / years.length := by
  have hlengthQ : (0 : ℚ) < years.length := Nat.cast_pos.2 (List.length_pos_of_ne_nil hyears)
  have habs : (years.sum.natAbs : ℚ) = |(years.sum : ℚ)| := by
    rw [Nat.cast_natAbs, Int.cast_abs]
  rw [eq_div_iff hlengthQ.ne', ← abs_of_pos hlengthQ, ← abs_mul, abs_of_pos hlengthQ, sub_mul,
    div_mul_cancel₀ _ hlengthQ.ne', habs]
  by_cases hnegative : years.sum < 0
  · have hnegativeQ : (years.sum : ℚ) < 0 := Int.cast_lt_zero.2 hnegative
    rw [if_pos hnegative, abs_of_neg hnegativeQ, ← abs_neg]
    push_cast
    ring_nf
  · have hnonneg : (0 : ℚ) ≤ years.sum := Int.cast_nonneg (not_lt.1 hnegative)
    rw [if_neg hnegative, abs_of_nonneg hnonneg]
    push_cast
    rfl

/-- A quotient that is rounded without its sign is rounded to the nearest integer. -/
theorem isRoundedMean_of_roundHalfEven {years : List Int} (hyears : years ≠ []) {whole : Nat}
    (hwhole : whole = roundHalfEven years.sum.natAbs years.length) :
    IsRoundedMean years (if years.sum < 0 then -(whole : Int) else whole) := by
  have hlength : 0 < years.length := List.length_pos_of_ne_nil hyears
  have hlengthQ : (0 : ℚ) < years.length := Nat.cast_pos.2 hlength
  obtain ⟨hlow, hhigh, hodd⟩ := roundHalfEven_near years.sum.natAbs hlength
  rw [← hwhole] at hlow hhigh hodd
  have hlowQ : 2 * ((whole : ℚ) * years.length) ≤ 2 * years.sum.natAbs + years.length := by
    exact_mod_cast hlow
  have hhighQ : 2 * (years.sum.natAbs : ℚ) ≤ 2 * (whole * years.length) + years.length := by
    exact_mod_cast hhigh
  rw [IsRoundedMean, abs_sub_mean hyears]
  constructor
  · rw [div_le_iff₀ hlengthQ, abs_le]
    constructor <;> linarith
  · intro hhalf
    have heven : whole % 2 = 0 := by
      by_contra hne
      obtain ⟨hlow, hhigh⟩ := hodd (by omega)
      have hlowQ : 2 * ((whole : ℚ) * years.length) < 2 * years.sum.natAbs + years.length := by
        exact_mod_cast hlow
      have hhighQ : 2 * (years.sum.natAbs : ℚ) < 2 * (whole * years.length) + years.length := by
        exact_mod_cast hhigh
      rw [div_eq_iff hlengthQ.ne', abs_eq (by positivity)] at hhalf
      rcases hhalf with habove | hbelow <;> linarith
    have hcast : Even (whole : Int) := (Int.even_coe_nat whole).2 (Nat.even_iff.2 heven)
    split
    · exact hcast.neg
    · exact hcast

/-- Dates have years of far fewer than 32 bits. -/
theorem CalendarDate.natAbs_year_le (date : CalendarDate) : date.year.natAbs ≤ 2 ^ 18 := by
  obtain ⟨hearliest, hlatest, -⟩ := date.isDay
  simp only [earliestYear, latestYear] at hearliest hlatest
  omega

theorem CalendarDate.toInt_ofInt_year (date : CalendarDate) :
    (Int32.ofInt date.year).toInt = date.year := by
  have hyear := date.natAbs_year_le
  exact Int32.toInt_ofInt_of_le (by omega) (by omega)

theorem natAbs_sum_le {years : List Int} (hyears : ∀ year ∈ years, year.natAbs ≤ 2 ^ 18) :
    years.sum.natAbs ≤ 2 ^ 18 * years.length := by
  induction years with
  | nil => simp
  | cons year rest ih =>
    have hfirst := hyears year List.mem_cons_self
    have hrest := ih fun other hother => hyears other (List.mem_cons_of_mem _ hother)
    rw [List.sum_cons, List.length_cons, Nat.mul_succ]
    omega

namespace Profile

/-- A year of the calendar is at most 2 ^ 18 years away from the year zero. -/
theorem natAbs_toInt_le {years : List Int32} (hcalendar : ∀ year ∈ years,
      CalendarDate.earliestYear ≤ year.toInt ∧ year.toInt ≤ CalendarDate.latestYear) :
    ∀ year ∈ years.map Int32.toInt, year.natAbs ≤ 2 ^ 18 := by
  intro year hyear
  obtain ⟨recorded, hrecorded, rfl⟩ := List.mem_map.1 hyear
  obtain ⟨hearliest, hlatest⟩ := hcalendar recorded hrecorded
  simp only [CalendarDate.earliestYear, CalendarDate.latestYear] at hearliest hlatest
  omega

theorem foldl_years (profile : Profile) :
    profile.years.foldl (fun total year => total + year.toInt) 0 =
      (profile.years.map Int32.toInt).sum := by
  rw [List.sum_eq_foldl, List.foldl_map]

theorem toInt_clampToYear {year : Int} (hyear : year.natAbs ≤ 2 ^ 18) :
    (clampToYear year).toInt = year := by
  rw [clampToYear, Int32.toInt_ofInt_of_le] <;> omega

/-- The mean year of seeds with few enough dates. -/
theorem averageYear_spec {profile : Profile} (hsome : profile.years ≠ [])
    (hfew : profile.years.length < 2 ^ 32)
    (hyears : ∀ year ∈ profile.years.map Int32.toInt, year.natAbs ≤ 2 ^ 18) :
    ∃ mean : Int32, profile.averageYear = some mean ∧
      IsRoundedMean (profile.years.map Int32.toInt) mean.toInt ∧ mean.toInt.natAbs ≤ 2 ^ 18 := by
  have hlength : 0 < profile.years.length := List.length_pos_of_ne_nil hsome
  have hbound := natAbs_sum_le hyears
  rw [List.length_map] at hbound
  set total := (profile.years.map Int32.toInt).sum with htotal
  set whole := roundHalfEven total.natAbs profile.years.length with hwhole
  have hquotient : Binary64.ofInt total / Binary64.ofNat profile.years.length =
      Binary64.nearest (decide (total < 0)) (total.natAbs * Binary64.unitsPerOne)
        profile.years.length :=
    Binary64.ofInt_div_ofNat (by omega) hlength (by omega)
  have hrounded : (Binary64.ofInt total / Binary64.ofNat profile.years.length).toNearestInt =
      if total < 0 then -(whole : Int) else whole := by
    rw [hquotient, Binary64.toNearestInt, Binary64.roundToWhole]
    simp only [Binary64.nearest, decide_eq_true_eq]
    rw [Binary64.roundHalfEven_units_nearestMagnitude hlength hfew.le (by omega)]
  have hwholeLe : whole ≤ 2 ^ 18 := roundHalfEven_le hbound
  have hclamp : (clampToYear (if total < 0 then -(whole : Int) else whole)).toInt =
      if total < 0 then -(whole : Int) else whole := by
    apply toInt_clampToYear
    split <;> omega
  refine ⟨clampToYear (if total < 0 then -(whole : Int) else whole), ?_, ?_, ?_⟩
  · rw [averageYear, if_neg (by simpa using hsome)]
    simp only [foldl_years, ← htotal, hrounded]
  · rw [hclamp]
    refine isRoundedMean_of_roundHalfEven (by simpa using hsome) ?_
    rw [List.length_map]
  · rw [hclamp]
    split <;> omega

end Profile

/-! ## Terms -/

namespace Score

/-- Points per occurrence are a number of quarters, and their product with a count is exact. -/
theorem is_attributeTerm {weight : Binary64} {points : ℚ} {quarters : Nat}
    (hweight : weight.Is points) (hpoints : points = quarters / 4) (hquarters : quarters ≤ 2 ^ 20)
    {recorded : List Int32} (hfew : recorded.length < 2 ^ 32) {attributes : List Int32}
    (hnodup : attributes.Nodup) :
    (attributeTerm weight (.ofList recorded) attributes).Is
      ((recorded.countP fun id => attributes.contains id : ℕ) * points) := by
  rw [attributeTerm, Frequencies.toNat_weightOf hnodup hfew]
  have hcount : (recorded.countP fun id => attributes.contains id) < 2 ^ 32 :=
    List.countP_le_length.trans_lt hfew
  generalize recorded.countP (fun id => attributes.contains id) = count at hcount ⊢
  have hproduct : ((count * quarters : ℕ) : Int).natAbs ≤ 2 ^ 53 :=
    (Nat.mul_le_mul hcount.le hquarters).trans (by decide)
  have hdyadic : (count * points : ℚ) = ((count * quarters : ℕ) : Int) / 2 ^ 2 := by
    rw [hpoints]
    push_cast
    ring
  have hnonneg : 0 ≤ points := by
    rw [hpoints]
    positivity
  apply (Binary64.is_ofNat (by omega)).mul hweight (Nat.cast_nonneg count) hnonneg
  rw [hdyadic]
  exact Binary64.isRepresentable_of_dyadic hproduct (by decide)

theorem is_genreWeight : genreWeight.Is 2 := Binary64.is_ofNat (by decide)

theorem is_tagWeight : tagWeight.Is 3 := Binary64.is_ofNat (by decide)

theorem is_demographicWeight : demographicWeight.Is (5 / 4) := by
  apply Binary64.is_ofFraction (by decide)
  have hdyadic : (((5 : Int) : ℚ) / (4 : ℕ)) = (5 : Int) / 2 ^ 2 := by norm_num
  rw [hdyadic]
  exact Binary64.isRepresentable_of_dyadic (by decide) (by decide)

theorem is_yearFalloff : yearFalloff.Is (1 / 2) := by
  apply Binary64.is_ofFraction (by decide)
  have hdyadic : (((1 : Int) : ℚ) / (2 : ℕ)) = (1 : Int) / 2 ^ 1 := by norm_num
  rw [hdyadic]
  exact Binary64.isRepresentable_of_dyadic (by decide) (by decide)

theorem is_nearnessCeiling : nearnessCeiling.Is 5 := Binary64.is_ofNat (by decide)

theorem is_authorTerm (isShared : Bool) :
    (authorTerm isShared).Is (if isShared then 3 else 0) := by
  cases isShared with
  | true => exact Binary64.is_ofNat (by decide)
  | false => exact Binary64.is_signedZero

theorem ratingTerm_of_absent {rating average : Option Binary64}
    (habsent : rating = none ∨ average = none) : ratingTerm rating average = zero := by
  rcases habsent with rfl | rfl
  · rfl
  · cases rating <;> rfl

theorem yearTerm_of_absent {date : Option CalendarDate} {mean : Option Int32}
    (habsent : date = none ∨ mean = none) : yearTerm date mean = zero := by
  rcases habsent with rfl | rfl
  · rfl
  · cases date <;> rfl

/-- The years of dates are too close for their distance to overflow. -/
theorem toInt_yearDistance (date : CalendarDate) {mean : Int32}
    (hmean : mean.toInt.natAbs ≤ 2 ^ 18) :
    (yearDistance (Int32.ofInt date.year) mean).toInt = |date.year - mean.toInt| := by
  have hyear := date.natAbs_year_le
  have hdifference : (Int32.ofInt date.year - mean).toInt = date.year - mean.toInt := by
    rw [Int32.toInt_sub, date.toInt_ofInt_year]
    exact Int.bmod_eq_of_le (by omega) (by omega)
  rw [yearDistance, ← hdifference]
  generalize hvalue : Int32.ofInt date.year - mean = difference at hdifference
  have hminimum : difference.toBitVec ≠ BitVec.intMin 32 := by
    intro hequal
    have hsmall : difference.toBitVec.toInt = -2 ^ 31 := by
      rw [hequal]
      decide
    have : difference.toInt = -2 ^ 31 := hsmall
    omega
  rw [Int.abs_eq_natAbs]
  exact BitVec.toInt_abs_eq_natAbs_of_ne_intMin hminimum

/-- Half a point is lost for each year of distance, until none is left. -/
theorem is_yearTerm (date : CalendarDate) {mean : Int32} (hmean : mean.toInt.natAbs ≤ 2 ^ 18) :
    (yearTerm (some date) (some mean)).Is (max 0 (5 - |(date.year : ℚ) - mean.toInt| / 2)) := by
  have hyear := date.natAbs_year_le
  have hsmall : |date.year - mean.toInt|.natAbs ≤ 2 ^ 52 := by
    rw [Int.natAbs_abs]
    omega
  have hcast : |(date.year : ℚ) - mean.toInt| = (|date.year - mean.toInt| : Int) := by
    push_cast
    rfl
  have hnonneg : (0 : ℚ) ≤ (|date.year - mean.toInt| : Int) := Int.cast_nonneg (abs_nonneg _)
  rw [yearTerm, toInt_yearDistance date hmean, hcast]
  generalize |date.year - mean.toInt| = distance at hsmall hnonneg ⊢
  have hcost : (distance : ℚ) * (1 / 2) = distance / 2 ^ 1 := by ring
  have hleft : (5 : ℚ) - distance * (1 / 2) = (10 - distance : Int) / 2 ^ 1 := by
    push_cast
    ring
  have hproduct : (Binary64.ofInt distance * yearFalloff).Is (distance * (1 / 2)) := by
    apply (Binary64.is_ofInt (by omega)).mul is_yearFalloff hnonneg (by norm_num)
    rw [hcost]
    exact Binary64.isRepresentable_of_dyadic (by omega) (by decide)
  have hpoints := (is_nearnessCeiling.sub hproduct (by norm_num) (by positivity)
    (by rw [hleft]; exact Binary64.isRepresentable_of_dyadic (by omega) (by decide))).positivePart
  rw [show (5 : ℚ) - distance / 2 = 5 - distance * (1 / 2) by ring]
  exact hpoints

end Score

end MangaRecommender
