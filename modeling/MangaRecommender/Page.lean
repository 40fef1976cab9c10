import MangaRecommender.Document.ScoredManga
import MangaRecommender.Document.SeedSummary
import MangaRecommender.Page.Parameters
import MangaRecommender.Service

/-!
# Pages

A page is a cut of the ordered list. Every page from the first on exists, the ones past the end
being empty.
-/

namespace MangaRecommender

structure Page where
  total : Nat
  page : Nat
  size : Nat
  items : List ScoredManga
  seeds : Option SeedSummary
  deriving DecidableEq

namespace ListParameters

def maxSize : Nat := 100

def validate (parameters : ListParameters) : Except Failure Unit :=
  if parameters.page < 1 then .error .pageTooSmall
  else if parameters.size < 1 ∨ maxSize < parameters.size then .error .sizeOutOfRange
  else .ok ()

/-- The first position of the page among `total` ones. -/
def offset (parameters : ListParameters) (total : Nat) : Nat :=
  min ((parameters.page - 1) * parameters.size) total

/-- Orders what is served and cuts out the page. -/
def paginate (parameters : ListParameters) (served : Served) : Except Failure Page := do
  parameters.validate
  let sorted := sortItems parameters.field parameters.direction served.items
  return {
    total := sorted.length
    page := parameters.page
    size := parameters.size
    items := (sorted.drop (parameters.offset sorted.length)).take parameters.size
    seeds := served.seeds }

end ListParameters

def Page.write (page : Page) : List Char :=
  Json.object ([
    ("total_results", Text.decimal page.total),
    ("page", Text.decimal page.page),
    ("size", Text.decimal page.size),
    ("items", Json.array (page.items.map ScoredManga.write))] ++
    (page.seeds.map SeedSummary.members).getD [])

end MangaRecommender
