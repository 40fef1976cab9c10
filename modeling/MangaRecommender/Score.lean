import MangaRecommender.Binary64.Order
import MangaRecommender.Candidates

/-!
# Scores

A candidate gains points for every occurrence of its attributes among the seeds, a bonus for a
shared author, and points for the nearness of its rating and its year to the averages of the
seeds. The score is the sum of these terms in their order, rounded to cents with halves going to
the even cent.
-/

namespace MangaRecommender

structure ScoreDetails where
  genre : Binary64
  tag : Binary64
  demographic : Binary64
  author : Binary64
  rating : Binary64
  year : Binary64
  deriving DecidableEq

/-- A candidate with its score. -/
structure ScoredManga where
  id : Int32
  title : String
  rating : Option Binary64
  cover : Option String
  score : Binary64
  details : ScoreDetails
  deriving DecidableEq

namespace ScoreDetails

def total (details : ScoreDetails) : Binary64 :=
  details.genre + details.tag + details.demographic + details.author + details.rating +
    details.year

end ScoreDetails

namespace Score

def genreWeight : Binary64 := .ofNat 2

def tagWeight : Binary64 := .ofNat 3

def demographicWeight : Binary64 := .ofFraction 5 4

def authorBonus : Binary64 := .ofNat 3

/-- The most that nearness of rating or year is worth. -/
def nearnessCeiling : Binary64 := .ofNat 5

/-- What each year of distance costs. -/
def yearFalloff : Binary64 := .ofFraction 1 2

def zero : Binary64 := .signedZero false

/-- The points for the attributes of one kind. -/
def attributeTerm (weight : Binary64) (frequencies : Frequencies) (attributes : List Int32) :
    Binary64 :=
  Binary64.ofNat (frequencies.weightOf attributes).toNat * weight

def authorTerm (isShared : Bool) : Binary64 := if isShared then authorBonus else zero

/-- The points for the nearness of two ratings; a distance that is no number gives none. -/
def ratingTerm : Option Binary64 → Option Binary64 → Binary64
  | some rating, some average => (nearnessCeiling - (rating - average).abs).positivePart
  | _, _ => zero

/-- The distance of two years in 32 bits. -/
def yearDistance (year average : Int32) : Int32 := (year - average).abs

def yearTerm : Option CalendarDate → Option Int32 → Binary64
  | some date, some average =>
    let distance := Binary64.ofInt (yearDistance (Int32.ofInt date.year) average).toInt
    (nearnessCeiling - distance * yearFalloff).positivePart
  | _, _ => zero

def details (features : Features) (profile : Profile) (averageRating : Option Binary64)
    (averageYear : Option Int32) (manga : Manga) : ScoreDetails where
  genre := attributeTerm genreWeight profile.genres (features.genres.attributesOf manga.id)
  tag := attributeTerm tagWeight profile.tags (features.tags.attributesOf manga.id)
  demographic := attributeTerm demographicWeight profile.demographics
    (features.demographics.attributesOf manga.id)
  author := authorTerm (features.authors.sharesAny manga.id profile.authors)
  rating := ratingTerm manga.rating averageRating
  year := yearTerm manga.published averageYear

def roundToCents (value : Binary64) : Binary64 :=
  (value * .ofNat 100).roundHalvesToEven / .ofNat 100

/-- A candidate with the score of its details. -/
def withDetails (manga : Manga) (details : ScoreDetails) : ScoredManga where
  id := manga.id
  title := manga.title
  rating := manga.rating
  cover := manga.cover
  score := roundToCents details.total
  details := details

/-- Whether an item ranks before another: a higher score, or an equal one and no higher id. -/
def ranksBefore (left right : ScoredManga) : Bool :=
  decide (right.score.rank < left.score.rank) ||
    (decide (left.score.rank = right.score.rank) && decide (left.id ≤ right.id))

/-- Scores every candidate and ranks them. The averages are taken once for all. -/
def rankAll (features : Features) (profile : Profile) (candidates : List Manga) :
    List ScoredManga :=
  let averageRating := profile.averageRating
  let averageYear := profile.averageYear
  let scored := candidates.map fun manga =>
    withDetails manga (details features profile averageRating averageYear manga)
  scored.mergeSort ranksBefore

end Score

end MangaRecommender
