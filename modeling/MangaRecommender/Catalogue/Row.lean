import MangaRecommender.Catalogue.Manga

/-!
# Rows of a result

A cell holds a value of the type of its column, or nothing. Rows of numbers and pairs are read by
position and may have further columns; a manga is read by the names of its columns. A value of
another type does not fit, and only an optional value may be absent.
-/

namespace MangaRecommender

inductive Cell
  | null
  | id (value : Int32)
  | double (value : Binary64)
  | date (value : CalendarDate)
  | text (value : String)
  | boolean (value : Bool)
  deriving DecidableEq

/-- The rows of a result, with the names of their columns. -/
structure ResultSet where
  columns : List String
  rows : List (List Cell)
  deriving DecidableEq

namespace Cell

def id? : Cell → Option Int32
  | id value => some value
  | _ => none

def double? : Cell → Option Binary64
  | double value => some value
  | _ => none

def date? : Cell → Option CalendarDate
  | date value => some value
  | _ => none

def text? : Cell → Option String
  | text value => some value
  | _ => none

def boolean? : Cell → Option Bool
  | boolean value => some value
  | _ => none

/-- Reads an empty cell as an absent value. -/
def orAbsent {Value : Type} (read : Cell → Option Value) : Cell → Option (Option Value)
  | null => some none
  | cell => (read cell).map some

end Cell

namespace ResultSet

variable {First Second : Type}

def empty : ResultSet := ⟨[], []⟩

/-- Reads the first column of every row. -/
def scalars? (read : Cell → Option First) (result : ResultSet) : Option (List First) :=
  result.rows.mapM fun row => row[0]?.bind read

/-- Reads the first two columns of every row. -/
def pairs? (first : Cell → Option First) (second : Cell → Option Second) (result : ResultSet) :
    Option (List (First × Second)) :=
  result.rows.mapM fun row => do
    return (← row[0]?.bind first, ← row[1]?.bind second)

/-- The first column of the first row, which there must be. -/
def scalar? (read : Cell → Option First) (result : ResultSet) : Option First :=
  (result.rows.head?.bind List.head?).bind read

/-- The cell of a column; of columns with one name the last counts. -/
def cell? (result : ResultSet) (row : List Cell) (name : String) : Option Cell :=
  (result.columns.zip row).reverse.lookup name

def manga? (result : ResultSet) : Option (List Manga) :=
  result.rows.mapM fun row => do
    let cell := result.cell? row
    return {
      id := ← (cell "manga_id").bind Cell.id?
      title := ← (cell "title").bind Cell.text?
      rating := ← (cell "external_average_rating").bind (Cell.orAbsent Cell.double?)
      published := ← (cell "published_date").bind (Cell.orAbsent Cell.date?)
      cover := ← (cell "cover_image_url").bind (Cell.orAbsent Cell.text?) }

end ResultSet

end MangaRecommender
