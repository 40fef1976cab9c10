import MangaRecommender.Http.Task
import MangaRecommender.RateLimiter

/-!
# The gateway

A request is led to its endpoint, counted against the quotas of its client if the endpoint is
limited, whatever its method, read into a task and performed. Whatever happens before the task
leaves the cache alone.
-/

namespace MangaRecommender.Http

/-- What one request leaves to the next. -/
structure State where
  cache : Cache
  limiter : RateLimiter

/-- A response, the state after it, and the calls that were made for it. -/
structure Exchange where
  response : Response
  state : State
  cacheCalls : List CacheCall
  lookups : List Lookup

def healthy : Response := .json 200 (Json.object [("status", Json.quoted "healthy".toList)])

/-- The exchange that a reply of the service makes, once its value is written or fails. -/
def conclude {Value : Type} (state : State) (reply : Reply Value)
    (write : Value → Except Failure Response) : Exchange where
  response :=
    match reply.answer.bind write with
    | .ok response => response
    | .error failure => failure.response
  state := { state with cache := reply.cache }
  cacheCalls := reply.cacheCalls
  lookups := reply.lookups

/-- The page of what was served. -/
def writePage (parameters : ListParameters) (served : Served) : Except Failure Response :=
  (parameters.paginate served).map fun page => .json 200 page.write

def writeNothing (_ : Unit) : Except Failure Response := .ok (.empty 204)

def Task.perform (limits : Limits) (repository : Repository) (state : State) : Task → Exchange
  | .reportHealth => ⟨healthy, state, [], []⟩
  | .recommendForList parameters ids =>
    conclude state (Service.forList limits repository state.cache ids) (writePage parameters)
  | .recommendForCollection user collection parameters =>
    conclude state (Service.forCollection limits repository state.cache user collection)
      (writePage parameters)
  | .invalidateUser user =>
    conclude state (Service.invalidateUser repository state.cache user) writeNothing
  | .invalidateCollection user collection =>
    conclude state (Service.invalidateCollection state.cache user collection) writeNothing

/-- Answers a request of an allowed method that its client had a place for. -/
def serve (limits : Limits) (repository : Repository) (state : State) (endpoint : Endpoint)
    (request : Request) : Exchange :=
  match Task.ofRequest endpoint request with
  | .error refusal => ⟨refusal.response, state, [], []⟩
  | .ok task => task.perform limits repository state

/-- Counts a request against the quotas of a limited endpoint. -/
def charge (state : State) (endpoint : Endpoint) (request : Request) : Bool × State :=
  if endpoint.isLimited then
    let (admitted, limiter) := state.limiter.check request.client
    (admitted, { state with limiter })
  else (true, state)

/-- The `allow` header of a response to a method that the endpoint does not answer. -/
def allowHeader (endpoint : Endpoint) (request : Request) : Option String :=
  if endpoint.methods.contains request.method then none else some endpoint.allow

/-- The response to an endpoint's request, before its body is left out. -/
def dispatch (limits : Limits) (repository : Repository) (state : State) (endpoint : Endpoint)
    (request : Request) : Exchange :=
  let (admitted, state) := charge state endpoint request
  let allow := allowHeader endpoint request
  if !admitted then ⟨{ Failure.quotaSpent.response with allow }, state, [], []⟩
  else if allow.isSome then ⟨{ Response.empty 405 with allow }, state, [], []⟩
  else serve limits repository state endpoint request

/-- Whether the body of a response is left out, which `HEAD` asks of the endpoints that answer it.
Elsewhere it is a method like any other that the endpoint does not answer. -/
def leavesBodyOut (endpoint : Endpoint) (request : Request) : Bool :=
  request.method == "HEAD" && endpoint.methods.contains "HEAD"

/-- Answers a request. -/
def handle (limits : Limits) (repository : Repository) (state : State) (request : Request) :
    Exchange :=
  match Endpoint.ofPath? request.target.path with
  | none => ⟨.empty 404, state, [], []⟩
  | some endpoint =>
    let exchange := dispatch limits repository state endpoint request
    if leavesBodyOut endpoint request then
      { exchange with response := { exchange.response with body := [] } }
    else exchange

end MangaRecommender.Http
