import Mathlib
import MangaRecommender.Document.ScoredManga
import MangaRecommender.Generator
import MangaRecommender.Proofs.Document.ScoredManga
import MangaRecommender.Proofs.Score.Monotone

/-!
# Scores are finite

The terms of a score are bounded far below the largest double, whatever the ratings and years are,
and so is the score.  A rating of a manga or of a seed may be infinite or not a number: its distance
is then infinite or not a number too, and earns nothing.
-/

namespace MangaRecommender

theorem ScoreDetails.Ascends.isFinite {lower upper : ScoreDetails} {exponent : Nat}
    (hascends : ScoreDetails.Ascends exponent lower upper) (hexponent : exponent < 1024) :
    upper.IsFinite where
  genre := hascends.genre.within.isFinite hexponent
  tag := hascends.tag.within.isFinite hexponent
  demographic := hascends.demographic.within.isFinite hexponent
  author := hascends.author.within.isFinite hexponent
  rating := hascends.rating.within.isFinite hexponent
  year := hascends.year.within.isFinite hexponent

namespace Score

theorem hasFiniteScore_withDetails {manga : Manga} {details : ScoreDetails} {exponent : Nat}
    (hdetails : details.Ascends exponent details) (hexponent : exponent + 12 < 1024) :
    (withDetails manga details).HasFiniteScore where
  score := (ascends_score hdetails hexponent).within.isFinite hexponent
  details := hdetails.isFinite (by omega)

theorem hasFiniteScore_of_mem_rankAll {features : Features} {profile : Profile}
    {candidates : List Manga} {item : ScoredManga} (hitem : item ∈ rankAll features profile candidates) :
    item.HasFiniteScore := by
  rw [rankAll, List.mem_mergeSort] at hitem
  obtain ⟨manga, -, rfl⟩ := List.mem_map.1 hitem
  exact hasFiniteScore_withDetails (ascends_details_self _ _ _ _ _) (by decide)

end Score

end MangaRecommender
