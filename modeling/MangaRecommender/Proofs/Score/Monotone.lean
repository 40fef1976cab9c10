import Mathlib
import MangaRecommender.Proofs.Binary64.Monotone
import MangaRecommender.Score

/-!
# Scores grow with their terms

No term of a score has a sign, and the sum and its rounding to cents are monotone, so of two
candidates the one that is nowhere behind in what the terms are made of has no lower score.  The
counts of a profile have 32 bits, and nearness is worth no more than its ceiling, so that nothing
comes near the largest double.
-/

namespace MangaRecommender

/-- Term by term the lower details are at most the upper ones. -/
structure ScoreDetails.Ascends (exponent : Nat) (lower upper : ScoreDetails) : Prop where
  genre : Binary64.Ascends exponent lower.genre upper.genre
  tag : Binary64.Ascends exponent lower.tag upper.tag
  demographic : Binary64.Ascends exponent lower.demographic upper.demographic
  author : Binary64.Ascends exponent lower.author upper.author
  rating : Binary64.Ascends exponent lower.rating upper.rating
  year : Binary64.Ascends exponent lower.year upper.year

/-- Each of the five additions at most doubles the bound. -/
theorem ScoreDetails.Ascends.total {lower upper : ScoreDetails} {exponent : Nat}
    (hascends : ScoreDetails.Ascends exponent lower upper) (hexponent : exponent + 5 < 1024) :
    Binary64.Ascends (exponent + 5) lower.total upper.total := by
  have htwo := hascends.genre.add hascends.tag (by omega)
  have hthree := htwo.add (hascends.demographic.mono (by omega)) (by omega)
  have hfour := hthree.add (hascends.author.mono (by omega)) (by omega)
  have hfive := hfour.add (hascends.rating.mono (by omega)) (by omega)
  exact hfive.add (hascends.year.mono (by omega)) (by omega)

namespace Score

open Binary64 (Ascends)

/-! ## Terms -/

theorem ascends_attributeTerm {weight : Binary64} {exponent : Nat}
    (hweight : Ascends exponent weight weight) (hexponent : exponent < 1024)
    {frequencies : Frequencies} {fewer more : List Int32}
    (hle : frequencies.weightOf fewer ≤ frequencies.weightOf more) :
    Ascends (32 + exponent) (attributeTerm weight frequencies fewer)
      (attributeTerm weight frequencies more) := by
  have hcount : (frequencies.weightOf more).toNat ≤ 2 ^ 32 := (UInt32.toNat_lt _).le
  exact (Binary64.ascends_ofNat (UInt32.le_iff_toNat_le.1 hle) hcount).mul hweight (by decide)
    hexponent

theorem isWithin_authorTerm (isShared : Bool) : (authorTerm isShared).IsWithin 2 := by
  cases isShared with
  | true => exact Binary64.isWithin_ofNat (by decide)
  | false => exact Binary64.isWithin_signedZero false

theorem ascends_authorTerm {lower upper : Bool} (himplies : lower = true → upper = true) :
    Ascends 2 (authorTerm lower) (authorTerm upper) := by
  cases lower with
  | true =>
    rw [himplies rfl]
    exact .refl rfl (isWithin_authorTerm true)
  | false =>
    refine ⟨rfl, ?_, Nat.zero_le _, isWithin_authorTerm upper⟩
    cases upper <;> rfl

theorem isWithin_nearnessCeiling : nearnessCeiling.IsWithin 3 :=
  Binary64.isWithin_ofNat (by decide)

/-- Any ratings will do, a NaN and the infinities included. -/
theorem magnitude_ratingTerm_le (rating average : Option Binary64) :
    (ratingTerm rating average).magnitude ≤ nearnessCeiling.magnitude := by
  cases rating with
  | none => exact Nat.zero_le _
  | some rating =>
    cases average with
    | none => exact Nat.zero_le _
    | some average =>
      have hceiling := isWithin_nearnessCeiling.isFinite (by decide)
      exact Binary64.magnitude_positivePart_sub_le hceiling rfl rfl

theorem ascends_ratingTerm (rating average : Option Binary64) :
    Ascends 3 (ratingTerm rating average) (ratingTerm rating average) := by
  refine .refl ?_ ((magnitude_ratingTerm_le rating average).trans isWithin_nearnessCeiling)
  cases rating with
  | none => rfl
  | some rating =>
    cases average with
    | none => rfl
    | some average => exact Binary64.negative_positivePart _

/-- Any years will do, even if their distance overflows. -/
theorem ascends_yearTerm (date : Option CalendarDate) (average : Option Int32) :
    Ascends 33 (yearTerm date average) (yearTerm date average) := by
  cases date with
  | none => exact .refl rfl (Binary64.isWithin_signedZero false)
  | some date =>
    cases average with
    | none => exact .refl rfl (Binary64.isWithin_signedZero false)
    | some average =>
      refine .refl (Binary64.negative_positivePart _) ?_
      have hyears : (yearDistance (Int32.ofInt date.year) average).toInt.natAbs ≤ 2 ^ 31 := by
        have hlow := (yearDistance (Int32.ofInt date.year) average).le_toInt
        have hhigh := (yearDistance (Int32.ofInt date.year) average).toInt_lt
        omega
      have hfalloff : yearFalloff.IsWithin 0 := Binary64.isWithin_ofFraction (by decide) (by decide)
      have hcost := (Binary64.isWithin_ofInt hyears).mul hfalloff (by decide) (by decide)
      have hceiling : nearnessCeiling.IsWithin (31 + 0) := isWithin_nearnessCeiling.mono (by decide)
      exact ((hceiling.sub hcost (by decide)).mono (by decide)).positivePart

/-! ## Details and scores -/

theorem ascends_genreWeight : Ascends 2 genreWeight genreWeight :=
  Binary64.ascends_ofNat le_rfl (by decide)

theorem ascends_tagWeight : Ascends 2 tagWeight tagWeight :=
  Binary64.ascends_ofNat le_rfl (by decide)

theorem ascends_demographicWeight : Ascends 2 demographicWeight demographicWeight :=
  .refl rfl (Binary64.isWithin_ofFraction (by decide) (by decide))

theorem ascends_details {features : Features} {profile : Profile}
    {averageRating : Option Binary64} {averageYear : Option Int32} {lower upper : Manga}
    (hgenres : profile.genres.weightOf (features.genres.attributesOf lower.id) ≤
      profile.genres.weightOf (features.genres.attributesOf upper.id))
    (htags : profile.tags.weightOf (features.tags.attributesOf lower.id) ≤
      profile.tags.weightOf (features.tags.attributesOf upper.id))
    (hdemographics : profile.demographics.weightOf (features.demographics.attributesOf lower.id) ≤
      profile.demographics.weightOf (features.demographics.attributesOf upper.id))
    (hauthor : features.authors.sharesAny lower.id profile.authors = true →
      features.authors.sharesAny upper.id profile.authors = true)
    (hrating : ratingTerm lower.rating averageRating = ratingTerm upper.rating averageRating)
    (hyear : yearTerm lower.published averageYear = yearTerm upper.published averageYear) :
    (details features profile averageRating averageYear lower).Ascends 34
      (details features profile averageRating averageYear upper) where
  genre := ascends_attributeTerm ascends_genreWeight (by decide) hgenres
  tag := ascends_attributeTerm ascends_tagWeight (by decide) htags
  demographic := ascends_attributeTerm ascends_demographicWeight (by decide) hdemographics
  author := (ascends_authorTerm hauthor).mono (by decide)
  rating := by
    have hterm := (ascends_ratingTerm upper.rating averageRating).mono (show 3 ≤ 34 by decide)
    simpa only [details, hrating] using hterm
  year := by
    have hterm := (ascends_yearTerm upper.published averageYear).mono (show 33 ≤ 34 by decide)
    simpa only [details, hyear] using hterm

theorem ascends_details_self (features : Features) (profile : Profile)
    (averageRating : Option Binary64) (averageYear : Option Int32) (manga : Manga) :
    (details features profile averageRating averageYear manga).Ascends 34
      (details features profile averageRating averageYear manga) :=
  ascends_details (UInt32.le_refl _) (UInt32.le_refl _) (UInt32.le_refl _) id rfl rfl

theorem ascends_roundToCents {lower upper : Binary64} {exponent : Nat}
    (hascends : Ascends exponent lower upper) (hexponent : exponent + 7 < 1024) :
    Ascends (exponent + 7) (roundToCents lower) (roundToCents upper) := by
  have hhundred : Ascends 7 (Binary64.ofNat 100) (Binary64.ofNat 100) :=
    Binary64.ascends_ofNat le_rfl (by decide)
  have hcents := (hascends.mul hhundred (by omega) (by decide)).roundHalvesToEven hexponent
  exact hcents.div hexponent rfl hhundred.within (by decide)
    (Binary64.powerMagnitude_zero_le_ofNat (by decide))

theorem ascends_score {lower upper : ScoreDetails} {exponent : Nat}
    (hascends : ScoreDetails.Ascends exponent lower upper) (hexponent : exponent + 12 < 1024) :
    Ascends (exponent + 12) (roundToCents lower.total) (roundToCents upper.total) :=
  ascends_roundToCents (hascends.total (by omega)) (by omega)

end Score

end MangaRecommender
