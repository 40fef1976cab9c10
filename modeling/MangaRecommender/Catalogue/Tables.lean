import MangaRecommender.Catalogue.Repository

/-!
# A catalogue in memory

Tables of rows and the repository that answers from them: every lookup keeps the order of the
rows, and the candidates are the rated rows outside the excluded ids that are linked to an
attribute of the query, in ascending order of id and cut to the limit. Any call may be set to
fail.
-/

namespace MangaRecommender

structure Collection where
  id : Int32
  owner : Uuid
  manga : List Int32
  deriving DecidableEq

structure Tables where
  manga : List Manga
  links : AttributeKind → List Link
  collections : List Collection
  /-- Rows that every candidate query is answered with, where they are given. -/
  fixedCandidates : Option (List Manga)

/-- The calls that can be set to fail. -/
inductive RepositoryCall
  | links (kind : AttributeKind)
  | ratings
  | dates
  | candidates
  | owns
  | collectionManga
  | userCollections
  deriving DecidableEq

/-- The failure of each call that is set to fail. -/
abbrev Outages := RepositoryCall → Option Failure

def Outages.none : Outages := fun _ => .none

namespace Tables

def empty : Tables := ⟨[], fun _ => [], [], none⟩

/-- Whether a manga is linked to one of the attributes. -/
def isLinked (tables : Tables) (kind : AttributeKind) (attributes : List Int32) (id : Int32) :
    Bool :=
  (tables.links kind).any fun link => link.1 == id && attributes.contains link.2

/-- Whether a row answers a query, the limit aside. -/
def qualifies (tables : Tables) (query : CandidateQuery) (row : Manga) : Bool :=
  !query.excluded.contains row.id && row.rating.isSome &&
    (tables.isLinked .genre query.genres row.id || tables.isLinked .tag query.tags row.id ||
      tables.isLinked .demographic query.demographics row.id)

def candidates (tables : Tables) (query : CandidateQuery) : List Manga :=
  match tables.fixedCandidates with
  | some rows => rows
  | none =>
    let rows := tables.manga.filter (tables.qualifies query)
    (rows.mergeSort fun left right => decide (left.id ≤ right.id)).take query.limit.toNat

def ownsCollection (tables : Tables) (user : Uuid) (collection : Int32) : Bool :=
  tables.collections.any fun row => row.id == collection && row.owner == user

def collectionManga (tables : Tables) (user : Uuid) (collection : Int32) :
    Except Failure (List Int32) :=
  match tables.collections.find? fun row => row.id == collection && row.owner == user with
  | some row => .ok row.manga
  | none => .error .collectionNotFound

def userCollections (tables : Tables) (user : Uuid) : List Int32 :=
  (tables.collections.filter fun row => row.owner == user).map Collection.id

/-- An answer, unless its call is set to fail. -/
def unlessFailing {Value : Type} (outages : Outages) (call : RepositoryCall)
    (answer : Except Failure Value) : Except Failure Value :=
  match outages call with
  | some failure => .error failure
  | none => answer

def repository (tables : Tables) (outages : Outages) : Repository where
  links kind ids := unlessFailing outages (.links kind) <|
    .ok ((tables.links kind).filter fun link => ids.contains link.1)
  ratings ids := unlessFailing outages .ratings <|
    .ok ((tables.manga.filter fun row => ids.contains row.id).map fun row => (row.id, row.rating))
  dates ids := unlessFailing outages .dates <|
    .ok ((tables.manga.filter fun row => ids.contains row.id).map fun row =>
      (row.id, row.published))
  candidates query := unlessFailing outages .candidates <| .ok (tables.candidates query)
  owns user collection := unlessFailing outages .owns <|
    .ok (tables.ownsCollection user collection)
  collectionManga user collection := unlessFailing outages .collectionManga <|
    tables.collectionManga user collection
  userCollections user := unlessFailing outages .userCollections <|
    .ok (tables.userCollections user)

end Tables

end MangaRecommender
