import MangaRecommender.Json.Record
import MangaRecommender.Page.Order
import MangaRecommender.Text.Integer
import MangaRecommender.Text.Percent

/-!
# Parameters of a list

The order and the page that a caller wants, each with a default. They are given as a JSON record
or as the query of an address, in which each name may come once and unknown names are ignored.
-/

namespace MangaRecommender

structure ListParameters where
  field : SortField
  direction : SortDirection
  page : Nat
  size : Nat
  deriving DecidableEq, Repr

namespace ListParameters

def standard : ListParameters := ⟨.score, .descending, 1, 20⟩

def fieldNames : List (String × SortField) :=
  [("score", .score), ("title", .title), ("external_average_rating", .rating)]

def directionNames : List (String × SortDirection) :=
  [("asc", .ascending), ("desc", .descending)]

/-- What a name stands for. -/
def named? {Value : Type} (names : List (String × Value)) (name : List Char) : Option Value :=
  (names.find? fun entry => entry.1.toList = name).map Prod.snd

structure Draft where
  field : Option SortField
  direction : Option SortDirection
  page : Option Nat
  size : Option Nat

namespace Draft

def blank : Draft := ⟨none, none, none, none⟩

def finish (draft : Draft) : ListParameters where
  field := draft.field.getD standard.field
  direction := draft.direction.getD standard.direction
  page := draft.page.getD standard.page
  size := draft.size.getD standard.size

end Draft

/-- Reads a name, or an object with the name and null. -/
def readNamed {Value : Type} (names : List (String × Value)) : Json.Reader Value := fun text =>
  match Json.skipBlanks text with
  | '"' :: _ => Json.readSpelled (named? names) text
  | '\x7b' :: rest => do
    let (value, rest) ← Json.readSpelled (named? names) rest
    let (_, rest) ← readNull (← Json.skipColon rest)
    match Json.skipBlanks rest with
    | '\x7d' :: rest => .ok (value, rest)
    | _ => .error .malformed
  | _ => .error .malformed
where
  readNull : Json.Reader Unit := fun text =>
    match Json.skipBlanks text with
    | 'n' :: rest => (Json.skipWord ['u', 'l', 'l'] rest).map fun rest => ((), rest)
    | other => .error (Json.faultOfOther other)

def record : Json.Record Draft ListParameters where
  fields := [
    Json.field "order_by" (readNamed fieldNames) Draft.field
      (fun draft value => { draft with field := some value }) true,
    Json.field "order_dir" (readNamed directionNames) Draft.direction
      (fun draft value => { draft with direction := some value }) true,
    Json.field "page" Json.readSize Draft.page
      (fun draft value => { draft with page := some value }) true,
    Json.field "size" Json.readSize Draft.size
      (fun draft value => { draft with size := some value }) true]
  blank := .blank
  finish draft := some draft.finish

/-- A whole number of the query. -/
def size? (text : List Char) : Option Nat :=
  ((Text.readInteger Text.unsigned64 text).map Int.toNat).toOption

/-- A value for a place that has none yet. -/
def once {Value : Type} (present : Option Value) (value : Option Value) : Option Value :=
  if present.isSome then none else value

/-- Enters one parameter of a query. -/
def Draft.enter (draft : Draft) (parameter : List Char × List Char) : Option Draft :=
  let (name, value) := parameter
  if name = "order_by".toList then
    (once draft.field (named? fieldNames value)).map fun field => { draft with field := some field }
  else if name = "order_dir".toList then
    (once draft.direction (named? directionNames value)).map fun direction =>
      { draft with direction := some direction }
  else if name = "page".toList then
    (once draft.page (size? value)).map fun page => { draft with page := some page }
  else if name = "size".toList then
    (once draft.size (size? value)).map fun size => { draft with size := some size }
  else some draft

def ofQuery? (query : List Char) : Option ListParameters :=
  ((Text.formPairs query).foldlM Draft.enter Draft.blank).map Draft.finish

end ListParameters

end MangaRecommender
