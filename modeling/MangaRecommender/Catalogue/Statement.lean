import MangaRecommender.Catalogue.Manga
import MangaRecommender.Uuid

/-!
# Statements of the catalogue

Every lookup is one statement with its values bound to placeholders, except that the manga of a
collection are asked for only after its owner. No value is ever part of the text of a statement.
-/

namespace MangaRecommender

/-- A value that is bound to a placeholder. -/
inductive Binding
  | ids (values : List Int32)
  | id (value : Int32)
  | limit (value : Int)
  | user (value : Uuid)
  deriving DecidableEq

structure Statement where
  text : String
  bindings : List Binding
  deriving DecidableEq

namespace Statement

def links (kind : AttributeKind) (manga : List Int32) : Statement :=
  ⟨"SELECT manga_id, " ++ kind.column ++ " FROM " ++ kind.table ++ " WHERE manga_id = ANY($1)",
    [.ids manga]⟩

def ratings (manga : List Int32) : Statement :=
  ⟨"SELECT manga_id, external_average_rating::float8 FROM manga WHERE manga_id = ANY($1)",
    [.ids manga]⟩

def dates (manga : List Int32) : Statement :=
  ⟨"SELECT manga_id, published_date FROM manga WHERE manga_id = ANY($1)", [.ids manga]⟩

/-- Whether a manga has an attribute among those bound to a placeholder; `name` stands for the
table of the links. -/
def existsLink (kind : AttributeKind) (name placeholder : String) : String :=
  "EXISTS (SELECT 1 FROM " ++ kind.table ++ " " ++ name ++ " WHERE " ++ name ++
    ".manga_id = m.manga_id AND " ++ name ++ "." ++ kind.column ++ " = ANY(" ++ placeholder ++ "))"

def candidatesText : String :=
  "SELECT m.manga_id, m.title, " ++
    "m.external_average_rating::float8 AS external_average_rating, " ++
    "m.published_date, m.cover_image_url FROM manga m " ++
    "WHERE m.manga_id <> ALL($1) AND m.external_average_rating IS NOT NULL AND ( " ++
    existsLink .genre "g" "$2" ++ " OR " ++ existsLink .tag "t" "$3" ++ " OR " ++
    existsLink .demographic "d" "$4" ++ " ) ORDER BY m.manga_id LIMIT $5"

def candidates (query : CandidateQuery) : Statement :=
  ⟨candidatesText, [.ids query.excluded, .ids query.genres, .ids query.tags,
    .ids query.demographics, .limit query.limit]⟩

def owns (user : Uuid) (collection : Int32) : Statement :=
  ⟨"SELECT EXISTS (SELECT 1 FROM collection WHERE collection_id = $1 AND user_id = $2)",
    [.id collection, .user user]⟩

def collectionManga (collection : Int32) : Statement :=
  ⟨"SELECT DISTINCT manga_id FROM manga_collection WHERE collection_id = $1 ORDER BY manga_id",
    [.id collection]⟩

def userCollections (user : Uuid) : Statement :=
  ⟨"SELECT collection_id FROM collection WHERE user_id = $1 ORDER BY collection_id",
    [.user user]⟩

end Statement

end MangaRecommender
