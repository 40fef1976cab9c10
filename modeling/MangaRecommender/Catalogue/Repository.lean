import MangaRecommender.Catalogue.Manga
import MangaRecommender.Failure
import MangaRecommender.Uuid

/-!
# Lookups in the catalogue

A repository answers each lookup or fails. A computation over it is followed by the lookups that
it made, in order, whether it succeeds or not: `Traced` keeps both. Lookups that do not need each
other's answers are made together; all of them are made, and the first failure among them counts.
-/

namespace MangaRecommender

structure Repository where
  links : AttributeKind → List Int32 → Except Failure (List Link)
  ratings : List Int32 → Except Failure (List (Int32 × Option Binary64))
  dates : List Int32 → Except Failure (List (Int32 × Option CalendarDate))
  candidates : CandidateQuery → Except Failure (List Manga)
  owns : Uuid → Int32 → Except Failure Bool
  collectionManga : Uuid → Int32 → Except Failure (List Int32)
  userCollections : Uuid → Except Failure (List Int32)

inductive Lookup
  | links (kind : AttributeKind) (ids : List Int32)
  | ratings (ids : List Int32)
  | dates (ids : List Int32)
  | candidates (query : CandidateQuery)
  | owns (user : Uuid) (collection : Int32)
  | collectionManga (user : Uuid) (collection : Int32)
  | userCollections (user : Uuid)
  deriving DecidableEq

/-- A result or a failure, and the lookups that were made for it. -/
structure Traced (Value : Type) where
  lookups : List Lookup
  result : Except Failure Value

namespace Traced

variable {First Second : Type}

def pure (value : First) : Traced First := ⟨[], .ok value⟩

def fail (failure : Failure) : Traced First := ⟨[], .error failure⟩

/-- Goes on with a result; after a failure nothing more is looked up. -/
def bind (first : Traced First) (next : First → Traced Second) : Traced Second :=
  match first.result with
  | .ok value => ⟨first.lookups ++ (next value).lookups, (next value).result⟩
  | .error failure => ⟨first.lookups, .error failure⟩

instance : Monad Traced where
  pure := pure
  bind := bind

/-- Two computations that are made together. -/
def together (first : Traced First) (second : Traced Second) : Traced (First × Second) :=
  ⟨first.lookups ++ second.lookups, do return (← first.result, ← second.result)⟩

/-- The candidate queries among the lookups. -/
def queries (traced : Traced First) : List CandidateQuery :=
  traced.lookups.filterMap fun
    | .candidates query => some query
    | _ => none

end Traced

namespace Repository

def lookUpLinks (repository : Repository) (kind : AttributeKind) (ids : List Int32) :
    Traced (List Link) :=
  ⟨[.links kind ids], repository.links kind ids⟩

def lookUpRatings (repository : Repository) (ids : List Int32) :
    Traced (List (Int32 × Option Binary64)) :=
  ⟨[.ratings ids], repository.ratings ids⟩

def lookUpDates (repository : Repository) (ids : List Int32) :
    Traced (List (Int32 × Option CalendarDate)) :=
  ⟨[.dates ids], repository.dates ids⟩

def lookUpCandidates (repository : Repository) (query : CandidateQuery) : Traced (List Manga) :=
  ⟨[.candidates query], repository.candidates query⟩

def lookUpOwner (repository : Repository) (user : Uuid) (collection : Int32) : Traced Bool :=
  ⟨[.owns user collection], repository.owns user collection⟩

def lookUpCollection (repository : Repository) (user : Uuid) (collection : Int32) :
    Traced (List Int32) :=
  ⟨[.collectionManga user collection], repository.collectionManga user collection⟩

def lookUpUserCollections (repository : Repository) (user : Uuid) : Traced (List Int32) :=
  ⟨[.userCollections user], repository.userCollections user⟩

end Repository

end MangaRecommender
