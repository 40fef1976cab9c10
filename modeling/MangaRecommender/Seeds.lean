import MangaRecommender.Catalogue.Repository
import MangaRecommender.FirstOccurrence

/-!
# Seeds

The seeds of a recommendation are the distinct ids of a list in order of first occurrence, cut to
a cap. A list from a caller may hold ids that cannot exist, which do not count; a
collection is taken as it is. Without a seed there is nothing to recommend.
-/

namespace MangaRecommender

/-- The caps of one recommendation. -/
structure Limits where
  maxSeeds : Nat
  maxCandidates : Int
  deriving DecidableEq, Repr

/-- How many distinct ids were given, and how many of them are used. -/
structure SeedSummary where
  total : Nat
  used : Nat
  truncated : Bool
  deriving DecidableEq, Repr

structure Seeds where
  ids : List Int32
  total : Nat
  deriving DecidableEq, Repr

namespace Seeds

def capped (maxSeeds : Nat) (ids : List Int32) : Seeds :=
  let distinct := firstOccurrences id ids
  ⟨distinct.take maxSeeds, distinct.length⟩

def isEmpty (seeds : Seeds) : Bool := seeds.ids.isEmpty

def summary (seeds : Seeds) : SeedSummary :=
  ⟨seeds.total, seeds.ids.length, decide (seeds.ids.length < seeds.total)⟩

/-- The seeds, or the failure of having none. -/
def orElse (seeds : Seeds) (failure : Failure) : Except Failure Seeds :=
  if seeds.isEmpty then .error failure else .ok seeds

def ofList (maxSeeds : Nat) (ids : List Int32) : Except Failure Seeds :=
  (capped maxSeeds (ids.filter fun id => decide (0 < id))).orElse .emptyList

def ofCollection (repository : Repository) (maxSeeds : Nat) (user : Uuid) (collection : Int32) :
    Traced Seeds := do
  let ids ← repository.lookUpCollection user collection
  ⟨[], (capped maxSeeds ids).orElse .emptyCollection⟩

end Seeds

end MangaRecommender
