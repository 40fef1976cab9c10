import MangaRecommender.Binary64.Basic
import MangaRecommender.CalendarDate

/-!
# The catalogue

A manga may be linked to any number of attributes of four kinds. Candidates for a recommendation
are asked for by the attributes that they may share; authors are no reason to be a candidate.
-/

namespace MangaRecommender

structure Manga where
  id : Int32
  title : String
  rating : Option Binary64
  published : Option CalendarDate
  cover : Option String
  deriving DecidableEq

inductive AttributeKind
  | genre
  | tag
  | demographic
  | author
  deriving DecidableEq, Repr

namespace AttributeKind

/-- The relation that links manga to the attributes of a kind. -/
def table : AttributeKind → String
  | genre => "manga_genre"
  | tag => "manga_tag"
  | demographic => "manga_demographic"
  | author => "manga_author"

/-- The column of that relation that holds the attribute. -/
def column : AttributeKind → String
  | genre => "genre_id"
  | tag => "tag_id"
  | demographic => "demographic_id"
  | author => "author_id"

end AttributeKind

/-- A manga and one of its attributes. -/
abbrev Link := Int32 × Int32

/-- A request for rated manga outside a set that share an attribute. -/
structure CandidateQuery where
  excluded : List Int32
  genres : List Int32
  tags : List Int32
  demographics : List Int32
  limit : Int
  deriving DecidableEq, Repr

/-- Whether no manga can share an attribute with the query. -/
def CandidateQuery.hasNoAttributes (query : CandidateQuery) : Bool :=
  query.genres.isEmpty && query.tags.isEmpty && query.demographics.isEmpty

end MangaRecommender
