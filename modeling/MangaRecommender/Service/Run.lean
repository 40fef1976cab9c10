import MangaRecommender.Service
import MangaRecommender.World

/-!
# Runs of a service

A run is a list of steps, each a request or a change of the world. A request is answered from the
world before it and leaves a cache to the next step; a change is not replied to.
-/

namespace MangaRecommender

/-- A reply with its value transformed; failure and effects stay. -/
def Reply.map {First Second : Type} (transform : First → Second) (reply : Reply First) :
    Reply Second :=
  ⟨reply.answer.map transform, reply.cache, reply.cacheCalls, reply.lookups⟩

namespace Service

inductive Request
  | forCollection (user : Uuid) (collection : Int32)
  | forList (ids : List Int32)
  | invalidateUser (user : Uuid)
  | invalidateCollection (user : Uuid) (collection : Int32)
  deriving DecidableEq

/-- What a request is granted. -/
inductive Answer
  | served (served : Served)
  | evicted
  deriving DecidableEq

inductive Step
  | request (request : Request)
  | change (change : Change)

def perform (limits : Limits) (repository : Repository) (cache : Cache) : Request → Reply Answer
  | .forCollection user collection =>
    (forCollection limits repository cache user collection).map .served
  | .forList ids => (forList limits repository cache ids).map .served
  | .invalidateUser user => (invalidateUser repository cache user).map fun _ => .evicted
  | .invalidateCollection user collection =>
    (invalidateCollection cache user collection).map fun _ => .evicted

/-- The reply to a step and the world after it. -/
def step (limits : Limits) (world : World) : Step → Option (Reply Answer) × World
  | .request request =>
    let reply := perform limits world.repository world.cache request
    (some reply, { world with cache := reply.cache })
  | .change change => (none, world.change change)

/-- The replies to the steps of a run. -/
def replies (limits : Limits) (world : World) : List Step → List (Option (Reply Answer))
  | [] => []
  | first :: rest =>
    (step limits world first).1 :: replies limits (step limits world first).2 rest

/-- The world after a run. -/
def worldAfter (limits : Limits) (world : World) (steps : List Step) : World :=
  steps.foldl (fun world next => (step limits world next).2) world

end Service

end MangaRecommender
