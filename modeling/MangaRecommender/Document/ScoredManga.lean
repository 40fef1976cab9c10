import MangaRecommender.Json.Record
import MangaRecommender.Json.Writer
import MangaRecommender.Score

/-!
# Scored manga as JSON

The form in which recommendations are served and kept in the cache. Every field is written, an
absent one as null; a double that is not finite is written as null too, which reads back as an
absent rating and as no score at all.
-/

namespace MangaRecommender

namespace ScoreDetails

def write (details : ScoreDetails) : List Char :=
  Json.object [
    ("genre_score", Json.double details.genre),
    ("tag_score", Json.double details.tag),
    ("demo_score", Json.double details.demographic),
    ("author_score", Json.double details.author),
    ("rating_score", Json.double details.rating),
    ("year_score", Json.double details.year)]

structure Draft where
  genre : Option Binary64
  tag : Option Binary64
  demographic : Option Binary64
  author : Option Binary64
  rating : Option Binary64
  year : Option Binary64

def record : Json.Record Draft ScoreDetails where
  fields := [
    Json.field "genre_score" Json.readDouble Draft.genre
      (fun draft value => { draft with genre := some value }) false,
    Json.field "tag_score" Json.readDouble Draft.tag
      (fun draft value => { draft with tag := some value }) false,
    Json.field "demo_score" Json.readDouble Draft.demographic
      (fun draft value => { draft with demographic := some value }) false,
    Json.field "author_score" Json.readDouble Draft.author
      (fun draft value => { draft with author := some value }) false,
    Json.field "rating_score" Json.readDouble Draft.rating
      (fun draft value => { draft with rating := some value }) false,
    Json.field "year_score" Json.readDouble Draft.year
      (fun draft value => { draft with year := some value }) false]
  blank := ⟨none, none, none, none, none, none⟩
  finish draft := do
    return ⟨← draft.genre, ← draft.tag, ← draft.demographic, ← draft.author, ← draft.rating,
      ← draft.year⟩

end ScoreDetails

namespace ScoredManga

def write (item : ScoredManga) : List Char :=
  Json.object [
    ("manga_id", Text.signedDecimal item.id.toInt),
    ("title", Json.quoted item.title.toList),
    ("external_average_rating", Json.optional Json.double item.rating),
    ("cover_image_url", Json.optional (fun cover => Json.quoted cover.toList) item.cover),
    ("score", Json.double item.score),
    ("details", item.details.write)]

structure Draft where
  id : Option Int32
  title : Option String
  rating : Option (Option Binary64)
  cover : Option (Option String)
  score : Option Binary64
  details : Option ScoreDetails

def record : Json.Record Draft ScoredManga where
  fields := [
    Json.field "manga_id" Json.readId Draft.id
      (fun draft value => { draft with id := some value }) false,
    Json.field "title" Json.readText Draft.title
      (fun draft value => { draft with title := some value }) false,
    Json.field "external_average_rating" (Json.readOptional Json.readDouble) Draft.rating
      (fun draft value => { draft with rating := some value }) false,
    Json.field "cover_image_url" (Json.readOptional Json.readText) Draft.cover
      (fun draft value => { draft with cover := some value }) false,
    Json.field "score" Json.readDouble Draft.score
      (fun draft value => { draft with score := some value }) false,
    Json.field "details" ScoreDetails.record.read Draft.details
      (fun draft value => { draft with details := some value }) false]
  blank := ⟨none, none, none, none, none, none⟩
  finish draft := do
    return ⟨← draft.id, ← draft.title, draft.rating.getD none, draft.cover.getD none,
      ← draft.score, ← draft.details⟩

/-- The text of a list of items. -/
def encodeList (items : List ScoredManga) : String :=
  String.ofList (Json.array (items.map write))

/-- Reads a list of items. -/
def decodeList? (text : String) : Option (List ScoredManga) :=
  (Json.readWhole (Json.readArray record.read) text.toList).toOption

end ScoredManga

end MangaRecommender
