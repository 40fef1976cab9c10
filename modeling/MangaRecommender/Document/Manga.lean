import MangaRecommender.Catalogue.Manga
import MangaRecommender.Json.Record
import MangaRecommender.Json.Writer

/-!
# Manga as JSON
-/

namespace MangaRecommender.Manga

def write (manga : Manga) : List Char :=
  Json.object [
    ("manga_id", Text.signedDecimal manga.id.toInt),
    ("title", Json.quoted manga.title.toList),
    ("external_average_rating", Json.optional Json.double manga.rating),
    ("published_date", Json.optional (fun date => Json.quoted date.text) manga.published),
    ("cover_image_url", Json.optional (fun cover => Json.quoted cover.toList) manga.cover)]

structure Draft where
  id : Option Int32
  title : Option String
  rating : Option (Option Binary64)
  published : Option (Option CalendarDate)
  cover : Option (Option String)

def record : Json.Record Draft Manga where
  fields := [
    Json.field "manga_id" Json.readId Draft.id
      (fun draft value => { draft with id := some value }) false,
    Json.field "title" Json.readText Draft.title
      (fun draft value => { draft with title := some value }) false,
    Json.field "external_average_rating" (Json.readOptional Json.readDouble) Draft.rating
      (fun draft value => { draft with rating := some value }) false,
    Json.field "published_date" (Json.readOptional (Json.readSpelled CalendarDate.ofText?))
      Draft.published (fun draft value => { draft with published := some value }) false,
    Json.field "cover_image_url" (Json.readOptional Json.readText) Draft.cover
      (fun draft value => { draft with cover := some value }) false]
  blank := ⟨none, none, none, none, none⟩
  finish draft := do
    return ⟨← draft.id, ← draft.title, draft.rating.getD none, draft.published.getD none,
      draft.cover.getD none⟩

end MangaRecommender.Manga
