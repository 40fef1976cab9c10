import MangaRecommender.Binary64.Arithmetic
import MangaRecommender.Catalogue.Repository
import MangaRecommender.Profile.Frequencies

/-!
# The profile of a seed set

What the seeds have in common: how often each attribute occurs among them, their authors, and the
averages of their known ratings and publication years. Authors are no classification: a profile
with nothing else has none.
-/

namespace MangaRecommender

structure Profile where
  genres : Frequencies
  tags : Frequencies
  demographics : Frequencies
  authors : IdSet
  /-- The known ratings, in the order of the rows. -/
  ratings : List Binary64
  /-- The years of the known publication dates, in the order of the rows. -/
  years : List Int32

namespace Profile

def empty : Profile := ⟨.empty, .empty, .empty, .empty, [], []⟩

/-- The sum in list order, which starts from the negative zero. -/
def sum (values : List Binary64) : Binary64 := values.foldl (· + ·) (Binary64.signedZero true)

def averageRating (profile : Profile) : Option Binary64 :=
  if profile.ratings.isEmpty then none
  else some (sum profile.ratings / Binary64.ofNat profile.ratings.length)

/-- The nearest of the integers that a year can be. -/
def clampToYear (value : Int) : Int32 :=
  Int32.ofInt (max (-2 ^ 31) (min value (2 ^ 31 - 1)))

/-- The mean year, a half going to the even one. -/
def averageYear (profile : Profile) : Option Int32 :=
  if profile.years.isEmpty then none
  else
    let total := profile.years.foldl (fun total year => total + year.toInt) 0
    some (clampToYear
      (Binary64.ofInt total / Binary64.ofNat profile.years.length).toNearestInt)

/-- Whether a manga can share a genre, tag or demographic with the seeds. -/
def isClassifiable (profile : Profile) : Bool :=
  !(profile.genres.isEmpty && profile.tags.isEmpty && profile.demographics.isEmpty)

/-- The rows that were looked up for the seeds. -/
structure Rows where
  genres : List Link
  tags : List Link
  demographics : List Link
  authors : List Link
  ratings : List (Int32 × Option Binary64)
  dates : List (Int32 × Option CalendarDate)

def ofRows (rows : Rows) : Profile where
  genres := .ofList (rows.genres.map Prod.snd)
  tags := .ofList (rows.tags.map Prod.snd)
  demographics := .ofList (rows.demographics.map Prod.snd)
  authors := .ofList (rows.authors.map Prod.snd)
  ratings := rows.ratings.filterMap Prod.snd
  years := rows.dates.filterMap fun row => row.2.map fun date => Int32.ofInt date.year

/-- Looks up everything about the seeds together. -/
def lookUpRows (repository : Repository) (seeds : List Int32) : Traced Rows := do
  let (genres, tags, demographics, authors, ratings, dates) ←
    (repository.lookUpLinks .genre seeds).together <|
    (repository.lookUpLinks .tag seeds).together <|
    (repository.lookUpLinks .demographic seeds).together <|
    (repository.lookUpLinks .author seeds).together <|
    (repository.lookUpRatings seeds).together <|
    repository.lookUpDates seeds
  return ⟨genres, tags, demographics, authors, ratings, dates⟩

def build (repository : Repository) (seeds : List Int32) : Traced Profile := do
  return ofRows (← lookUpRows repository seeds)

end Profile

end MangaRecommender
