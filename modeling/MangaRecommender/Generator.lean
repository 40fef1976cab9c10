import MangaRecommender.Score
import MangaRecommender.Seeds

/-!
# Generating recommendations

One run builds the profile of the seeds, selects candidates, loads their attributes and ranks
them. The failure of a step is the failure of the run, and no later step is begun.
-/

namespace MangaRecommender

structure Recommendation where
  items : List ScoredManga
  seeds : SeedSummary
  deriving DecidableEq

namespace Generator

/-- Scores candidates, if there are any. -/
def rankCandidates (repository : Repository) (profile : Profile) (candidates : List Manga) :
    Traced (List ScoredManga) := do
  if candidates.isEmpty then return []
  else
    let features ← Features.load repository (candidates.map Manga.id)
    return Score.rankAll features profile candidates

def run (repository : Repository) (limits : Limits) (seeds : Seeds) : Traced Recommendation := do
  let profile ← Profile.build repository seeds.ids
  let candidates ← Candidates.select repository seeds.ids profile limits.maxCandidates
  let items ← rankCandidates repository profile candidates
  return ⟨items, seeds.summary⟩

/-- Recommendations for the manga of a collection. -/
def forCollection (repository : Repository) (limits : Limits) (user : Uuid)
    (collection : Int32) : Traced Recommendation := do
  run repository limits (← Seeds.ofCollection repository limits.maxSeeds user collection)

/-- Recommendations for a list of ids. -/
def forList (repository : Repository) (limits : Limits) (ids : List Int32) :
    Traced Recommendation := do
  run repository limits (← ⟨[], Seeds.ofList limits.maxSeeds ids⟩)

end Generator

end MangaRecommender
