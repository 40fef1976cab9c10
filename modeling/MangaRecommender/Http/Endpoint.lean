import MangaRecommender.Http.Message
import MangaRecommender.Text.Percent

/-!
# Endpoints

A path leads to one of five endpoints or to none. The words of a path are compared as they are
spelled, and a fixed word is preferred to the place of a collection. Only the endpoints that
generate recommendations are limited.
-/

namespace MangaRecommender.Http

/-- An endpoint, with the text that stands in the place of a collection. -/
inductive Endpoint
  | health
  | list
  | collection (segment : String)
  | userCache
  | collectionCache (segment : String)
  deriving DecidableEq, Repr

namespace Endpoint

def ofPath? (path : List Char) : Option Endpoint :=
  match (Text.splitAt '/' path).map String.ofList with
  | ["", "health"] => some health
  | ["", "api", "v1", "recommendations", ""] => none
  | ["", "api", "v1", "recommendations", "query-list"] => some list
  | ["", "api", "v1", "recommendations", "cache"] => some userCache
  | ["", "api", "v1", "recommendations", segment] => some (collection segment)
  | ["", "api", "v1", "recommendations", segment, "cache"] => some (collectionCache segment)
  | _ => none

/-- The methods that an endpoint answers. -/
def methods : Endpoint → List String
  | health | collection _ => ["GET", "HEAD"]
  | list => ["POST"]
  | userCache | collectionCache _ => ["DELETE"]

def allow (endpoint : Endpoint) : String := String.intercalate "," endpoint.methods

def isLimited : Endpoint → Bool
  | list | collection _ => true
  | health | userCache | collectionCache _ => false

end Endpoint

end MangaRecommender.Http
