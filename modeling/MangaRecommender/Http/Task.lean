import MangaRecommender.Document.SeedSummary
import MangaRecommender.Http.Endpoint
import MangaRecommender.Http.MediaType
import MangaRecommender.Page

/-!
# From requests to tasks

A request that reached its endpoint is read into a task before anything is done. It is refused at
the first part that cannot be read: the user, then the path, then the query, then the body. A body
of any length is read: a limit to it, and the status 413 beyond it, are left to whoever hands the
requests over.
-/

namespace MangaRecommender.Http

/-- What a request asks for. -/
inductive Task
  | reportHealth
  | recommendForList (parameters : ListParameters) (ids : List Int32)
  | recommendForCollection (user : Uuid) (collection : Int32) (parameters : ListParameters)
  | invalidateUser (user : Uuid)
  | invalidateCollection (user : Uuid) (collection : Int32)

/-- Why a request is not read. -/
inductive Refusal
  | failure (cause : Failure)
  | invalidPath
  | invalidQuery
  | wrongMediaType
  | malformedBody
  | unfitBody
  deriving DecidableEq

namespace Refusal

/-- The status and the words before the colon are fixed for each kind of fault. What stands behind
the colon is an account of the single fault; here it is the same for all faults of a kind. -/
def response : Refusal → Response
  | failure cause => cause.response
  | invalidPath => .plain 400 "Invalid URL: the collection is no 32-bit integer"
  | invalidQuery => .plain 400 "Failed to deserialize query string: unusable list parameters"
  | wrongMediaType => .plain 415 "Expected request with `Content-Type: application/json`"
  | malformedBody => .plain 400 "Failed to parse the request body as JSON: malformed text"
  | unfitBody => .plain 422
      "Failed to deserialize the JSON body into the target type: not a list of manga ids"

def ofFault : Json.Fault → Refusal
  | .malformed => malformedBody
  | .unfit => unfitBody

end Refusal

namespace Request

def user (request : Request) : Except Refusal Uuid :=
  match request.header? "x-user-id" with
  | none => .error (.failure .missingUser)
  | some value =>
    match Uuid.ofText? value.toList with
    | none => .error (.failure .invalidUser)
    | some user => .ok user

def listParameters (request : Request) : Except Refusal ListParameters :=
  match ListParameters.ofQuery? request.target.query with
  | none => .error .invalidQuery
  | some parameters => .ok parameters

/-- The ids in front of a body; what stands behind them is not looked at. -/
def seedIds (request : Request) : Except Refusal (List Int32) :=
  if (request.header? "content-type").any MediaType.isJson then
    ((seedList.read request.body.toList).map Prod.fst).mapError Refusal.ofFault
  else .error .wrongMediaType

end Request

/-- The collection that a segment of a path names. -/
def collectionOf (segment : String) : Except Refusal Int32 :=
  match Text.readInteger Text.signed32 (Text.percentDecode segment.toList) with
  | .ok value => .ok (Int32.ofInt value)
  | .error _ => .error .invalidPath

def Task.ofRequest (endpoint : Endpoint) (request : Request) : Except Refusal Task :=
  match endpoint with
  | .health => .ok .reportHealth
  | .list => do
    let parameters ← request.listParameters
    return .recommendForList parameters (← request.seedIds)
  | .collection segment => do
    let user ← request.user
    let collection ← collectionOf segment
    return .recommendForCollection user collection (← request.listParameters)
  | .userCache => do return .invalidateUser (← request.user)
  | .collectionCache segment => do
    let user ← request.user
    return .invalidateCollection user (← collectionOf segment)

end MangaRecommender.Http
