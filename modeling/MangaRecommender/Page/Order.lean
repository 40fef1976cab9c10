import MangaRecommender.Score
import MangaRecommender.Text.Lowercase

/-!
# The order of a list

Items are ordered by one field and then by title. Titles compare in lower case, character by
character; a missing rating is below every other, and doubles compare in their total order.
Descending reverses both keys, and items that agree in both keep their places in either direction.
-/

namespace MangaRecommender

inductive SortField
  | score
  | title
  | rating
  deriving DecidableEq, Repr

inductive SortDirection
  | ascending
  | descending
  deriving DecidableEq, Repr

namespace SortField

def compareTitles (left right : ScoredManga) : Ordering :=
  compare (Text.lowercase left.title) (Text.lowercase right.title)

def compareRatings : Option Binary64 → Option Binary64 → Ordering
  | none, none => .eq
  | none, some _ => .lt
  | some _, none => .gt
  | some left, some right => left.totalCompare right

def comparePrimary (field : SortField) (left right : ScoredManga) : Ordering :=
  match field with
  | score => left.score.totalCompare right.score
  | title => compareTitles left right
  | rating => compareRatings left.rating right.rating

def compareItems (field : SortField) (left right : ScoredManga) : Ordering :=
  (field.comparePrimary left right).then (compareTitles left right)

end SortField

namespace SortDirection

def apply (direction : SortDirection) (ordering : Ordering) : Ordering :=
  match direction with
  | ascending => ordering
  | descending => ordering.swap

end SortDirection

/-- Whether an item may stand before another. -/
def mayPrecede (field : SortField) (direction : SortDirection) (left right : ScoredManga) : Bool :=
  (direction.apply (field.compareItems left right)).isLE

def sortItems (field : SortField) (direction : SortDirection) (items : List ScoredManga) :
    List ScoredManga :=
  items.mergeSort (mayPrecede field direction)

end MangaRecommender
