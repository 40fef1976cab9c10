import MangaRecommender.Catalogue.Repository
import MangaRecommender.Catalogue.Row
import MangaRecommender.Catalogue.Statement

/-!
# A catalogue behind statements

The repository that asks a database. A failing statement and a result that does not fit are both
failures of the database. The manga of a collection are only asked for once its owner is known to
be the user; without that the collection is not found.
-/

namespace MangaRecommender

/-- A database at one moment, as the result of each statement. -/
structure Database where
  execute : Statement → Except Failure ResultSet

namespace Database

def unfitResult : Failure := .database "the result does not have the expected form"

/-- Executes a statement and reads its result. -/
def ask {Value : Type} (database : Database) (statement : Statement)
    (read : ResultSet → Option Value) : Except Failure Value := do
  match read (← database.execute statement) with
  | some value => .ok value
  | none => .error unfitResult

def owns (database : Database) (user : Uuid) (collection : Int32) : Except Failure Bool :=
  database.ask (.owns user collection) (ResultSet.scalar? Cell.boolean?)

def collectionManga (database : Database) (user : Uuid) (collection : Int32) :
    Except Failure (List Int32) := do
  if ← database.owns user collection then
    database.ask (.collectionManga collection) (ResultSet.scalars? Cell.id?)
  else .error .collectionNotFound

def repository (database : Database) : Repository where
  links kind manga := database.ask (.links kind manga) (ResultSet.pairs? Cell.id? Cell.id?)
  ratings manga :=
    database.ask (.ratings manga) (ResultSet.pairs? Cell.id? (Cell.orAbsent Cell.double?))
  dates manga :=
    database.ask (.dates manga) (ResultSet.pairs? Cell.id? (Cell.orAbsent Cell.date?))
  candidates query := database.ask (.candidates query) ResultSet.manga?
  owns := database.owns
  collectionManga := database.collectionManga
  userCollections user :=
    database.ask (.userCollections user) (ResultSet.scalars? Cell.id?)

end Database

end MangaRecommender
