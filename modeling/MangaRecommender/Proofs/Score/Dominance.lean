import Mathlib
import MangaRecommender.Proofs.Profile.Frequencies
import MangaRecommender.Proofs.Score.Monotone
import MangaRecommender.Proofs.Score.Ranking
import MangaRecommender.Proofs.Score.Terms

/-!
# A candidate with more in common

A candidate that has all attributes of another, shares an author if that one does, and is as near
in rating and year is nowhere behind in a term: the weight of more attributes counts more
occurrences among the seeds, unless 32 bits are too few for them.  The score follows the terms, and
the ranking follows the scores; ids decide only between equal ones.
-/

namespace MangaRecommender

/-- The same double, or both of them a zero, whatever its sign. -/
def Binary64.Agrees (left right : Binary64) : Prop :=
  left = right ∨ left.isZero = true ∧ right.isZero = true

theorem Binary64.eq_signedZero_of_isZero {double : Binary64} (hzero : double.isZero = true) :
    double = signedZero double.negative := by
  obtain ⟨negative, magnitude, hlt⟩ := double
  obtain rfl : magnitude = 0 := of_decide_eq_true hzero
  rfl

/-- How far a double is from zero does not depend on the sign of the zero. -/
theorem Binary64.abs_signedZero_sub (negative : Bool) (subtrahend : Binary64) :
    (signedZero negative - subtrahend).abs = (signedZero false - subtrahend).abs := by
  have hscaled : ∀ sign, (signedZero sign).scaled = 0 := by
    intro sign
    cases sign <;> rfl
  have hnan : ∀ sign, (signedZero sign).isNaN = false := fun sign => rfl
  have hinfinite : ∀ sign, (signedZero sign).isInfinite = false := fun sign => rfl
  show (add (signedZero negative) (neg subtrahend)).abs =
    (add (signedZero false) (neg subtrahend)).abs
  -- Only a difference of zero has another sign, and the absolute value drops it.
  simp only [add, hnan, hinfinite, hscaled, Bool.false_or, Bool.false_eq_true, if_false, ofScaled]
  split_ifs <;> rfl

theorem Binary64.Agrees.abs_sub_eq {left right : Binary64} (hagrees : left.Agrees right)
    (subtrahend : Binary64) : (left - subtrahend).abs = (right - subtrahend).abs := by
  obtain rfl | ⟨hleft, hright⟩ := hagrees
  · rfl
  · rw [eq_signedZero_of_isZero hleft, eq_signedZero_of_isZero hright, abs_signedZero_sub,
      abs_signedZero_sub right.negative]

/-- The higher candidate has all genres, tags and demographics of the lower one, shares an author
with the seeds if that one does, and agrees with it in rating and date. -/
structure Dominates (features : Features) (profile : Profile) (high low : Manga) : Prop where
  genres : features.genres.attributesOf low.id ⊆ features.genres.attributesOf high.id
  tags : features.tags.attributesOf low.id ⊆ features.tags.attributesOf high.id
  demographics :
    features.demographics.attributesOf low.id ⊆ features.demographics.attributesOf high.id
  author : features.authors.sharesAny low.id profile.authors = true →
    features.authors.sharesAny high.id profile.authors = true
  rating : Option.Rel Binary64.Agrees low.rating high.rating
  published : low.published = high.published

/-- The attributes were counted one by one, and 32 bits hold all counts of a kind together. -/
def Frequencies.CountsFew (frequencies : Frequencies) : Prop :=
  ∃ recorded, frequencies = .ofList recorded ∧ recorded.length < 2 ^ 32

structure Profile.CountsFew (profile : Profile) : Prop where
  genres : profile.genres.CountsFew
  tags : profile.tags.CountsFew
  demographics : profile.demographics.CountsFew

/-- Term by term the lower details are at most the upper ones, as numbers. -/
structure ScoreDetails.AtMost (lower upper : ScoreDetails) : Prop where
  genre : lower.genre.AtMost upper.genre
  tag : lower.tag.AtMost upper.tag
  demographic : lower.demographic.AtMost upper.demographic
  author : lower.author.AtMost upper.author
  rating : lower.rating.AtMost upper.rating
  year : lower.year.AtMost upper.year

/-- Both items are listed, and the first comes before the second wherever they occur. -/
structure Precedes (items : List ScoredManga) (first second : ScoredManga) : Prop where
  firstMem : first ∈ items
  secondMem : second ∈ items
  lt : ∀ i j : Nat, items[i]? = some first → items[j]? = some second → i < j

/-- More attributes have no lower weight: their counts are added without an overflow. -/
theorem Frequencies.CountsFew.weightOf_le {frequencies : Frequencies} (hfew : frequencies.CountsFew)
    {index : AttributeIndex} {low high : Int32}
    (hsubset : index.attributesOf low ⊆ index.attributesOf high) :
    frequencies.weightOf (index.attributesOf low) ≤
      frequencies.weightOf (index.attributesOf high) := by
  obtain ⟨recorded, rfl, hlength⟩ := hfew
  rw [UInt32.le_iff_toNat_le, toNat_weightOf (index.nodup_attributesOf low) hlength,
    toNat_weightOf (index.nodup_attributesOf high) hlength]
  apply List.countP_mono_left
  intro id _ hid
  rw [List.contains_iff_mem] at hid ⊢
  exact hsubset hid

theorem ScoreDetails.Ascends.atMost {lower upper : ScoreDetails} {exponent : Nat}
    (hascends : ScoreDetails.Ascends exponent lower upper) (hexponent : exponent < 1024) :
    lower.AtMost upper where
  genre := hascends.genre.atMost hexponent
  tag := hascends.tag.atMost hexponent
  demographic := hascends.demographic.atMost hexponent
  author := hascends.author.atMost hexponent
  rating := hascends.rating.atMost hexponent
  year := hascends.year.atMost hexponent

namespace Score

theorem ratingTerm_of_agrees {left right : Option Binary64}
    (hagrees : Option.Rel Binary64.Agrees left right) (average : Option Binary64) :
    ratingTerm left average = ratingTerm right average := by
  cases hagrees with
  | none => rfl
  | some hagrees =>
    cases average with
    | none => rfl
    | some average => rw [ratingTerm, ratingTerm, hagrees.abs_sub_eq]

section Dominance

variable {features : Features} {profile : Profile} {high low : Manga}

theorem ascends_of_dominates (hfew : profile.CountsFew)
    (hdominates : Dominates features profile high low) :
    (scored features profile low).details.Ascends 34 (scored features profile high).details :=
  ascends_details (hfew.genres.weightOf_le hdominates.genres)
    (hfew.tags.weightOf_le hdominates.tags)
    (hfew.demographics.weightOf_le hdominates.demographics) hdominates.author
    (ratingTerm_of_agrees hdominates.rating _) (by rw [hdominates.published])

/-- In a ranking an item comes first if the other may not rank above it. -/
theorem precedes_of_not_ranksAbove {candidates : List Manga} (hhigh : high ∈ candidates)
    (hlow : low ∈ candidates)
    (hnot : ¬ RanksAbove (scored features profile low) (scored features profile high)) :
    Precedes (rankAll features profile candidates) (scored features profile high)
      (scored features profile low) where
  firstMem := (rankAll_perm features profile candidates).mem_iff.2 (List.mem_map_of_mem hhigh)
  secondMem := (rankAll_perm features profile candidates).mem_iff.2 (List.mem_map_of_mem hlow)
  lt := by
    intro i j hfirst hsecond
    obtain ⟨hi, hfirst⟩ := List.getElem?_eq_some_iff.1 hfirst
    obtain ⟨hj, hsecond⟩ := List.getElem?_eq_some_iff.1 hsecond
    by_contra hle
    rcases (not_lt.1 hle).lt_or_eq with hlt | rfl
    · apply hnot
      rw [← hfirst, ← hsecond]
      exact List.pairwise_iff_getElem.1 (pairwise_rankAll features profile candidates) j i hj hi hlt
    · rw [← hfirst, ← hsecond] at hnot
      exact hnot (.inr ⟨rfl, Int32.le_refl _⟩)

/-- A candidate that another one dominates has no higher term and no higher score, and it is ranked
behind that one unless the scores are equal and its id is no higher. -/
theorem dominant_candidate_ranks_first {candidates : List Manga} (hfew : profile.CountsFew)
    (hhigh : high ∈ candidates) (hlow : low ∈ candidates)
    (hdominates : Dominates features profile high low) :
    let item := scored features profile
    (item low).details.AtMost (item high).details ∧ (item low).score.AtMost (item high).score ∧
      (Precedes (rankAll features profile candidates) (item high) (item low) ∨
        (item high).score = (item low).score ∧ low.id ≤ high.id) := by
  have hdetails := ascends_of_dominates hfew hdominates
  have hscore := ascends_score hdetails (by decide)
  refine ⟨hdetails.atMost (by decide), hscore.atMost (by decide), or_iff_not_imp_right.2 ?_⟩
  intro hunequal
  apply precedes_of_not_ranksAbove hhigh hlow
  rintro (hhigher | ⟨hequal, hid⟩)
  · exact (Binary64.totalCompare_eq_gt_iff.1 hhigher).not_ge hscore.rank_le
  · exact hunequal ⟨hequal.symm, hid⟩

end Dominance

/-- Seeds of which two have one genre and one has another. -/
def twoGenres : Profile :=
  { Profile.empty with genres := .ofList [5, 5, 6] }

def genresOfPair : Features :=
  { Features.empty with genres := .ofLinks [(1, 5), (2, 5), (2, 6)] }

def oneGenre : Manga := ⟨1, "One genre", some (.signedZero true), none, none⟩

def bothGenres : Manga := ⟨2, "Both genres", some (.signedZero false), none, none⟩

theorem countsFew_twoGenres : twoGenres.CountsFew where
  genres := ⟨[5, 5, 6], rfl, by decide⟩
  tags := ⟨[], rfl, by decide⟩
  demographics := ⟨[], rfl, by decide⟩

theorem dominates_bothGenres : Dominates genresOfPair twoGenres bothGenres oneGenre where
  genres := by decide
  tags := by decide
  demographics := by decide
  author := by decide
  rating := .some (.inr ⟨rfl, rfl⟩)
  published := rfl

theorem dominant_candidate_ranks_first_bothGenres :
    let item := scored genresOfPair twoGenres
    twoGenres.CountsFew ∧ Dominates genresOfPair twoGenres bothGenres oneGenre ∧
      (item oneGenre).details.AtMost (item bothGenres).details ∧
        (item oneGenre).score.AtMost (item bothGenres).score ∧
          (Precedes (rankAll genresOfPair twoGenres [oneGenre, bothGenres]) (item bothGenres)
              (item oneGenre) ∨
            (item bothGenres).score = (item oneGenre).score ∧ oneGenre.id ≤ bothGenres.id) :=
  ⟨countsFew_twoGenres, dominates_bothGenres,
    dominant_candidate_ranks_first countsFew_twoGenres (by decide) (by decide)
      dominates_bothGenres⟩

end Score

end MangaRecommender
