import Mathlib
import MangaRecommender.Document.ScoredManga
import MangaRecommender.Proofs.Json.Structure

/-!
# Scored manga are read back as written

The text of a list of items decodes to the same items, in the same order, except that a rating
which is not finite comes back absent.  The score and its six terms have no such way out: they
must be finite, or the item is no item at all, and one of these in a list makes the whole text
unreadable.
-/

namespace MangaRecommender

namespace ScoreDetails

/-- Every term is finite. -/
structure IsFinite (details : ScoreDetails) : Prop where
  genre : details.genre.isFinite = true
  tag : details.tag.isFinite = true
  demographic : details.demographic.isFinite = true
  author : details.author.isFinite = true
  rating : details.rating.isFinite = true
  year : details.year.isFinite = true

theorem readsBack_write {details : ScoreDetails} (hfinite : details.IsFinite) :
    Json.ReadsBack record.read details.write details := by
  have hfinish : record.finish ⟨some details.genre, some details.tag, some details.demographic,
      some details.author, some details.rating, some details.year⟩ = some details := rfl
  refine Json.Record.readsBack_object ?_ hfinish
  refine .set rfl rfl (Json.readsBack_double hfinite.genre) ?_
  refine .set rfl rfl (Json.readsBack_double hfinite.tag) ?_
  refine .set rfl rfl (Json.readsBack_double hfinite.demographic) ?_
  refine .set rfl rfl (Json.readsBack_double hfinite.author) ?_
  refine .set rfl rfl (Json.readsBack_double hfinite.rating) ?_
  refine .set rfl rfl (Json.readsBack_double hfinite.year) ?_
  exact .nil _

/-- Details with a term that is not finite are unfit. -/
theorem reads_write_of_not_finite {details : ScoreDetails} (hinfinite : ¬details.IsFinite) :
    Json.Reads record.read details.write (.error .unfit) := by
  apply Json.Record.reads_fault
  refine .double rfl rfl fun hgenre => ?_
  refine .double rfl rfl fun htag => ?_
  refine .double rfl rfl fun hdemographic => ?_
  refine .double rfl rfl fun hauthor => ?_
  refine .double rfl rfl fun hrating => ?_
  refine .double rfl rfl fun hyear => ?_
  exact absurd ⟨hgenre, htag, hdemographic, hauthor, hrating, hyear⟩ hinfinite

end ScoreDetails

namespace ScoredManga

/-- The score and every term of it are finite; the rating may be anything. -/
structure HasFiniteScore (item : ScoredManga) : Prop where
  score : item.score.isFinite = true
  details : item.details.IsFinite

/-- The item as it comes back from its text. -/
def storedForm (item : ScoredManga) : ScoredManga :=
  { item with rating := item.rating.filter Binary64.isFinite }

theorem storedForm_storedForm (item : ScoredManga) : item.storedForm.storedForm = item.storedForm := by
  simp [storedForm]

theorem map_storedForm_map_storedForm (items : List ScoredManga) :
    (items.map storedForm).map storedForm = items.map storedForm := by
  rw [List.map_map]
  exact List.map_congr_left fun item _ => storedForm_storedForm item

theorem readsBack_write {item : ScoredManga} (hfinite : item.HasFiniteScore) :
    Json.ReadsBack record.read item.write item.storedForm := by
  have hfinish : record.finish ⟨some item.id, some item.title,
      some (item.rating.filter Binary64.isFinite), some item.cover, some item.score,
      some item.details⟩ = some item.storedForm := rfl
  refine Json.Record.readsBack_object ?_ hfinish
  refine .set rfl rfl (Json.readsBack_id item.id) ?_
  refine .set rfl rfl (Json.readsBack_quoted item.title) ?_
  refine .set rfl rfl (Json.readsBack_optional_double item.rating) ?_
  refine .set rfl rfl (Json.readsBack_optional_quoted item.cover) ?_
  refine .set rfl rfl (Json.readsBack_double hfinite.score) ?_
  refine .set rfl rfl (ScoreDetails.readsBack_write hfinite.details) ?_
  exact .nil _

/-- An item with a score, or a term of it, that is not finite is unfit. -/
theorem reads_write_of_not_finite {item : ScoredManga} (hinfinite : ¬item.HasFiniteScore) :
    Json.Reads record.read item.write (.error .unfit) := by
  apply Json.Record.reads_fault
  refine .set rfl rfl (Json.readsBack_id item.id) ?_
  refine .set rfl rfl (Json.readsBack_quoted item.title) ?_
  refine .set rfl rfl (Json.readsBack_optional_double item.rating) ?_
  refine .set rfl rfl (Json.readsBack_optional_quoted item.cover) ?_
  refine .double rfl rfl fun hscore => ?_
  refine .stop rfl rfl (ScoreDetails.reads_write_of_not_finite fun hdetails => ?_)
  exact hinfinite ⟨hscore, hdetails⟩

/-- The score and the six terms that it sums up. -/
def doubles (item : ScoredManga) : List Binary64 :=
  [item.score, item.details.genre, item.details.tag, item.details.demographic,
    item.details.author, item.details.rating, item.details.year]

theorem hasFiniteScore_iff {item : ScoredManga} :
    item.HasFiniteScore ↔ ∀ value ∈ item.doubles, value.isFinite = true := by
  simp only [doubles, List.forall_mem_cons]
  constructor
  · rintro ⟨hscore, hgenre, htag, hdemographic, hauthor, hrating, hyear⟩
    exact ⟨hscore, hgenre, htag, hdemographic, hauthor, hrating, hyear, List.forall_mem_nil _⟩
  · rintro ⟨hscore, hgenre, htag, hdemographic, hauthor, hrating, hyear, -⟩
    exact ⟨hscore, hgenre, htag, hdemographic, hauthor, hrating, hyear⟩

instance (item : ScoredManga) : Decidable item.HasFiniteScore :=
  decidable_of_iff _ hasFiniteScore_iff.symm

/-- What the text of an item is read as. -/
def readOutcome (item : ScoredManga) : Except Json.Fault ScoredManga :=
  if item.HasFiniteScore then .ok item.storedForm else .error .unfit

theorem reads_write (item : ScoredManga) :
    Json.Reads record.read item.write item.readOutcome := by
  unfold readOutcome
  split
  · next hfinite => exact readsBack_write hfinite
  · next hinfinite => exact reads_write_of_not_finite hinfinite

theorem mapM_readOutcome (items : List ScoredManga) :
    items.mapM readOutcome =
      if ∀ item ∈ items, item.HasFiniteScore then .ok (items.map storedForm)
      else .error .unfit := by
  induction items with
  | nil => rfl
  | cons item items ih =>
    rw [List.mapM_cons, ih]
    simp only [readOutcome, List.forall_mem_cons]
    by_cases hitem : item.HasFiniteScore
    · by_cases hitems : ∀ item ∈ items, item.HasFiniteScore
      · rw [if_pos hitem, if_pos hitems, if_pos ⟨hitem, hitems⟩]
        rfl
      · rw [if_pos hitem, if_neg hitems, if_neg (not_and_of_not_right _ hitems)]
        rfl
    · rw [if_neg hitem, if_neg (not_and_of_not_left _ hitem)]
      rfl

/-- A payload is read as the stored forms of its items, or not at all. -/
theorem decodeList?_encodeList_eq (items : List ScoredManga) :
    decodeList? (encodeList items) =
      if ∀ item ∈ items, item.HasFiniteScore then some (items.map storedForm) else none := by
  have hread : Json.Reads (Json.readArray record.read) (Json.array (items.map write))
      (items.mapM readOutcome) :=
    Json.reads_array fun item _ => ⟨reads_write item, '\x7b', _, rfl, rfl, by decide⟩
  have hwhole := hread [] fun character hcharacter => by simp at hcharacter
  rw [List.append_nil, mapM_readOutcome] at hwhole
  rw [decodeList?, encodeList, String.toList_ofList, Json.readWhole, hwhole]
  split
  · rfl
  · rfl

/-- A payload of items with finite scores decodes to the stored forms of these items. -/
theorem decodeList?_encodeList {items : List ScoredManga}
    (hfinite : ∀ item ∈ items, item.HasFiniteScore) :
    decodeList? (encodeList items) = some (items.map storedForm) := by
  rw [decodeList?_encodeList_eq, if_pos hfinite]

end ScoredManga

end MangaRecommender
