import MangaRecommender.FirstOccurrence
import MangaRecommender.Profile

/-!
# Candidates

Candidates are the manga that share a genre, tag or demographic with the seeds. Whatever the
store answers, only rated manga outside the seeds stay, each id once. Their attributes are loaded
in bulk and indexed by manga.
-/

namespace MangaRecommender

/-- The attributes of each manga, in ascending order. -/
abbrev AttributeIndex := IdMap IdSet

namespace AttributeIndex

def addLink (index : AttributeIndex) (link : Link) : AttributeIndex :=
  index.update link.1 fun attributes => IdSet.insert (attributes.getD .empty) link.2

def ofLinks (links : List Link) : AttributeIndex := links.foldl addLink IdMap.empty

def attributesOf (index : AttributeIndex) (manga : Int32) : List Int32 :=
  ((index.get? manga).map IdMap.keys).getD []

def sharesAny (index : AttributeIndex) (manga : Int32) (attributes : IdSet) : Bool :=
  (index.attributesOf manga).any attributes.contains

end AttributeIndex

/-- The attributes of the candidates, by kind. -/
structure Features where
  genres : AttributeIndex
  tags : AttributeIndex
  demographics : AttributeIndex
  authors : AttributeIndex

namespace Features

def empty : Features := ⟨.empty, .empty, .empty, .empty⟩

/-- Looks up the attributes of all candidates together; there is nothing to look up for none. -/
def load (repository : Repository) (ids : List Int32) : Traced Features := do
  if ids.isEmpty then return empty
  else
    let (genres, tags, demographics, authors) ←
      (repository.lookUpLinks .genre ids).together <|
      (repository.lookUpLinks .tag ids).together <|
      (repository.lookUpLinks .demographic ids).together <|
      repository.lookUpLinks .author ids
    return ⟨.ofLinks genres, .ofLinks tags, .ofLinks demographics, .ofLinks authors⟩

end Features

namespace Candidates

def query (seeds : List Int32) (profile : Profile) (limit : Int) : CandidateQuery :=
  ⟨seeds, profile.genres.ids, profile.tags.ids, profile.demographics.ids, limit⟩

/-- Whether a row may be a candidate at all. -/
def isAdmissible (seeds : List Int32) (row : Manga) : Bool :=
  row.rating.isSome && !seeds.contains row.id

/-- The admissible rows, the first of each id. -/
def admissible (seeds : List Int32) (rows : List Manga) : List Manga :=
  firstOccurrences Manga.id (rows.filter (isAdmissible seeds))

/-- Asks for candidates, unless none can exist. -/
def select (repository : Repository) (seeds : List Int32) (profile : Profile) (limit : Int) :
    Traced (List Manga) := do
  let query := query seeds profile limit
  if query.hasNoAttributes then return []
  else return admissible seeds (← repository.lookUpCandidates query)

end Candidates

end MangaRecommender
