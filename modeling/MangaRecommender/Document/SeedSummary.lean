import MangaRecommender.Json.Record
import MangaRecommender.Json.Writer
import MangaRecommender.Seeds

/-!
# Seeds as JSON

The summary of the seeds that were used, and the list of ids that a caller gives to be
recommended from.
-/

namespace MangaRecommender

namespace SeedSummary

/-- The members of a summary, which a page carries among its own. -/
def members (summary : SeedSummary) : List (String × List Char) := [
  ("seed_total", Text.decimal summary.total),
  ("seed_used", Text.decimal summary.used),
  ("seed_truncated", Json.boolean summary.truncated)]

def write (summary : SeedSummary) : List Char := Json.object summary.members

structure Draft where
  total : Option Nat
  used : Option Nat
  truncated : Option Bool

def record : Json.Record Draft SeedSummary where
  fields := [
    Json.field "seed_total" Json.readSize Draft.total
      (fun draft value => { draft with total := some value }) false,
    Json.field "seed_used" Json.readSize Draft.used
      (fun draft value => { draft with used := some value }) false,
    Json.field "seed_truncated" Json.readBoolean Draft.truncated
      (fun draft value => { draft with truncated := some value }) false]
  blank := ⟨none, none, none⟩
  finish draft := do return ⟨← draft.total, ← draft.used, ← draft.truncated⟩

end SeedSummary

/-- The record around a list of ids in the body of a request. -/
def seedList : Json.Record (Option (List Int32)) (List Int32) where
  fields := [Json.field "manga_ids" (Json.readArray Json.readId) (fun draft => draft)
    (fun _ value => some value) false]
  blank := none
  finish := (fun draft => draft)

end MangaRecommender
