import Mathlib
import MangaRecommender.Proofs.Score.Monotone
import MangaRecommender.Proofs.Score.Ranking
import MangaRecommender.Proofs.Score.Terms

/-!
# The range of a score

A rating may be any double, and the mean of ratings may be one that no rating is: opposite
infinities have no sum.  What is infinite or not a number gets no further than the distance of two
ratings, which then earns nothing.  Years are those of the calendar, and their mean is no further
from the year zero than they are, however it is rounded.
-/

namespace MangaRecommender

/-- Finite and without a sign, and from zero to a limit. -/
structure Binary64.IsUpTo (limit : ℚ) (double : Binary64) : Prop where
  isUnsigned : double.IsUnsigned
  nonneg : 0 ≤ double.value
  le : double.value ≤ limit

/-- The years are those of dates, and there are no more of them than a memory of 64 bits holds. -/
structure Profile.HasCalendarYears (profile : Profile) : Prop where
  years : ∀ year ∈ profile.years,
    CalendarDate.earliestYear ≤ year.toInt ∧ year.toInt ≤ CalendarDate.latestYear
  length : profile.years.length < 2 ^ 64

/-- The ranges of the terms and of the score, given the mean rating of the seeds. -/
structure ScoredManga.IsBounded (averageRating : Option Binary64) (item : ScoredManga) : Prop where
  genre : item.details.genre.IsUnsigned
  tag : item.details.tag.IsUnsigned
  demographic : item.details.demographic.IsUnsigned
  author : item.details.author.Is 0 ∨ item.details.author.Is 3
  rating : item.details.rating.IsUpTo 5
  rating_of_not_finite : ∀ rating average, item.rating = some rating →
    averageRating = some average → (rating - average).abs.isFinite = false →
      item.details.rating = .signedZero false
  year : item.details.year.IsUpTo 5
  score : item.score.IsUnsigned

theorem Binary64.Is.isUpTo {double : Binary64} {number limit : ℚ} (his : double.Is number)
    (hnonneg : 0 ≤ number) (hle : number ≤ limit) : double.IsUpTo limit where
  isUnsigned := his.isUnsigned hnonneg
  nonneg := by rwa [his.value]
  le := by rwa [his.value]

theorem Binary64.Ascends.isUpTo {lower upper : Binary64} {exponent : Nat} {limit : ℚ}
    (hascends : Ascends exponent lower upper) (hexponent : exponent < 1024)
    (hupper : upper.Is limit) : lower.IsUpTo limit := by
  have hunsigned : lower.IsUnsigned :=
    ⟨hascends.lowerWithin.isFinite hexponent, hascends.lowerNegative⟩
  refine ⟨hunsigned, hunsigned.value_nonneg, ?_⟩
  rw [← hupper.value]
  exact (hascends.atMost hexponent).le

namespace Profile

/-- However the mean is rounded on the way, it does not leave the bound of the years. -/
theorem natAbs_averageYear_le {profile : Profile} (hyears : profile.HasCalendarYears)
    {mean : Int32} (hmean : profile.averageYear = some mean) : mean.toInt.natAbs ≤ 2 ^ 18 := by
  have hsum := natAbs_sum_le (natAbs_toInt_le hyears.years)
  rw [List.length_map] at hsum
  rw [averageYear] at hmean
  split at hmean
  · contradiction
  · next hsome =>
    have hpositive : 0 < profile.years.length :=
      List.length_pos_of_ne_nil fun hnone => hsome (List.isEmpty_iff.2 hnone)
    have hquotient := Binary64.isWithin_ofInt_div_ofNat hpositive hyears.length.le hsum (by decide)
    have hnearest := hquotient.natAbs_toNearestInt_le
    rw [← Option.some.inj hmean, foldl_years, toInt_clampToYear hnearest]
    exact hnearest

end Profile

namespace Score

theorem isUpTo_ratingTerm (rating average : Option Binary64) :
    (ratingTerm rating average).IsUpTo 5 := by
  have hbelow : Binary64.Ascends 3 (ratingTerm rating average) nearnessCeiling :=
    ⟨(ascends_ratingTerm rating average).lowerNegative, rfl, magnitude_ratingTerm_le rating average,
      isWithin_nearnessCeiling⟩
  exact hbelow.isUpTo (by decide) is_nearnessCeiling

theorem isUpTo_yearTerm (date : Option CalendarDate) {average : Option Int32}
    (haverage : ∀ mean, average = some mean → mean.toInt.natAbs ≤ 2 ^ 18) :
    (yearTerm date average).IsUpTo 5 := by
  cases date with
  | none => exact Binary64.is_signedZero.isUpTo le_rfl (by norm_num)
  | some date =>
    cases average with
    | none => exact Binary64.is_signedZero.isUpTo le_rfl (by norm_num)
    | some mean =>
      have hdistance := abs_nonneg ((date.year : ℚ) - mean.toInt)
      refine (is_yearTerm date (haverage mean rfl)).isUpTo (le_max_left _ _) ?_
      exact max_le (by norm_num) (by linarith)

theorem ratingTerm_of_not_finite {rating average : Binary64}
    (hdistance : (rating - average).abs.isFinite = false) :
    ratingTerm (some rating) (some average) = .signedZero false :=
  Binary64.positivePart_sub_of_not_isFinite (isWithin_nearnessCeiling.isFinite (by decide)) rfl
    hdistance

theorem is_zero_or_three_authorTerm (isShared : Bool) :
    (authorTerm isShared).Is 0 ∨ (authorTerm isShared).Is 3 := by
  cases isShared with
  | true => exact .inr (is_authorTerm true)
  | false => exact .inl (is_authorTerm false)

/-- Whatever the ratings of the candidates and of the seeds are, a NaN and the infinities included,
every term stays in its range and every score is finite. -/
theorem ranked_items_bounded {profile : Profile} (hyears : profile.HasCalendarYears)
    (features : Features) (candidates : List Manga) :
    ∀ item ∈ rankAll features profile candidates, item.IsBounded profile.averageRating := by
  intro item hitem
  obtain ⟨manga, -, rfl⟩ := exists_row_of_mem_rankAll hitem
  have hdetails := ascends_details_self features profile profile.averageRating profile.averageYear
    manga
  constructor
  case genre => exact hdetails.genre.isUnsigned (by decide)
  case tag => exact hdetails.tag.isUnsigned (by decide)
  case demographic => exact hdetails.demographic.isUnsigned (by decide)
  case author => exact is_zero_or_three_authorTerm _
  case rating => exact isUpTo_ratingTerm manga.rating profile.averageRating
  case rating_of_not_finite =>
    intro rating average hrating haverage hdistance
    have hterm := ratingTerm_of_not_finite hdistance
    rwa [← hrating, ← haverage] at hterm
  case year =>
    exact isUpTo_yearTerm manga.published fun mean hmean =>
      Profile.natAbs_averageYear_le hyears hmean
  case score => exact (ascends_score hdetails (by decide)).isUnsigned (by decide)

/-- Seeds with opposite infinite ratings, at the two ends of the calendar. -/
def oppositeSeeds : Profile :=
  { Profile.empty with ratings := [.infinity false, .infinity true], years := [-262143, 262142] }

/-- An infinitely rated manga of the last year. -/
def infinitelyRated : Manga :=
  ⟨7, "Seventh", some (.infinity false), some ⟨262142, 12, 31, by decide⟩, none⟩

theorem hasCalendarYears_oppositeSeeds : oppositeSeeds.HasCalendarYears where
  years := by
    intro year hyear
    have hends : year = -262143 ∨ year = 262142 := by simpa [oppositeSeeds] using hyear
    obtain rfl | rfl := hends
    · exact ⟨by decide, by decide⟩
    · exact ⟨by decide, by decide⟩
  length := by decide

theorem averageRating_oppositeSeeds : oppositeSeeds.averageRating = some .nan := by
  have hsum : Profile.sum oppositeSeeds.ratings = .nan := by decide
  have hsome : oppositeSeeds.ratings.isEmpty = false := rfl
  rw [Profile.averageRating, hsum, hsome, if_neg Bool.false_ne_true]
  generalize Binary64.ofNat oppositeSeeds.ratings.length = count
  rfl

theorem ranked_items_bounded_oppositeSeeds :
    oppositeSeeds.HasCalendarYears ∧ oppositeSeeds.averageRating = some .nan ∧
      ∀ item ∈ rankAll .empty oppositeSeeds [infinitelyRated],
        item.IsBounded oppositeSeeds.averageRating :=
  ⟨hasCalendarYears_oppositeSeeds, averageRating_oppositeSeeds,
    ranked_items_bounded hasCalendarYears_oppositeSeeds .empty [infinitelyRated]⟩

end Score

end MangaRecommender
