import Mathlib
import MangaRecommender.Http.Gateway

/-!
# The way of a request through the gateway

A request is turned away before anything is done for it, or it is read into a task that is
performed.  Which task that is depends on the endpoint and on the parts of the request that this
endpoint reads.  Turning a request away may cost its client a place in the quotas, and nothing
else.
-/

namespace MangaRecommender.Http

/-- The tasks that the requests of an endpoint are read into. -/
inductive Asks (request : Request) : Endpoint → Task → Prop
  | health : Asks request .health .reportHealth
  | list {parameters : ListParameters} {ids : List Int32}
      (hparameters : request.listParameters = .ok parameters) (hids : request.seedIds = .ok ids) :
      Asks request .list (.recommendForList parameters ids)
  | collection {segment : String} {user : Uuid} {collection : Int32}
      {parameters : ListParameters} (huser : request.user = .ok user)
      (hcollection : collectionOf segment = .ok collection)
      (hparameters : request.listParameters = .ok parameters) :
      Asks request (.collection segment) (.recommendForCollection user collection parameters)
  | userCache {user : Uuid} (huser : request.user = .ok user) :
      Asks request .userCache (.invalidateUser user)
  | collectionCache {segment : String} {user : Uuid} {collection : Int32}
      (huser : request.user = .ok user) (hcollection : collectionOf segment = .ok collection) :
      Asks request (.collectionCache segment) (.invalidateCollection user collection)

/-- A first part that is read, with what the parts behind it make of it. -/
theorem bind_eq_ok {First Second : Type} {first : Except Refusal First}
    {next : First → Except Refusal Second} {value : Second} :
    (first >>= next) = .ok value ↔ ∃ part, first = .ok part ∧ next part = .ok value := by
  cases first <;> simp [bind, Except.bind]

theorem ofRequest_eq_ok_iff {endpoint : Endpoint} {request : Request} {task : Task} :
    Task.ofRequest endpoint request = .ok task ↔ Asks request endpoint task := by
  constructor
  · intro htask
    cases endpoint <;>
      simp only [Task.ofRequest, bind_eq_ok, pure, Except.pure, Except.ok.injEq] at htask
    case health => exact htask ▸ .health
    case list =>
      obtain ⟨parameters, hparameters, ids, hids, rfl⟩ := htask
      exact .list hparameters hids
    case collection segment =>
      obtain ⟨user, huser, collection, hcollection, parameters, hparameters, rfl⟩ := htask
      exact .collection huser hcollection hparameters
    case userCache =>
      obtain ⟨user, huser, rfl⟩ := htask
      exact .userCache huser
    case collectionCache segment =>
      obtain ⟨user, huser, collection, hcollection, rfl⟩ := htask
      exact .collectionCache huser hcollection
  · intro hasks
    cases hasks <;> simp_all [Task.ofRequest, bind, Except.bind, pure, Except.pure]

/-- The exchange as its client sees it, with the body left out where it is not wanted. -/
def Exchange.seen (exchange : Exchange) (endpoint : Endpoint) (request : Request) : Exchange :=
  if leavesBodyOut endpoint request then
    { exchange with response := { exchange.response with body := [] } }
  else exchange

section Seen

variable (exchange : Exchange) (endpoint : Endpoint) (request : Request)

@[simp] theorem Exchange.seen_state : (exchange.seen endpoint request).state = exchange.state := by
  unfold Exchange.seen; split <;> rfl

@[simp] theorem Exchange.seen_cacheCalls :
    (exchange.seen endpoint request).cacheCalls = exchange.cacheCalls := by
  unfold Exchange.seen; split <;> rfl

@[simp] theorem Exchange.seen_lookups :
    (exchange.seen endpoint request).lookups = exchange.lookups := by
  unfold Exchange.seen; split <;> rfl

@[simp] theorem Exchange.seen_status :
    (exchange.seen endpoint request).response.status = exchange.response.status := by
  unfold Exchange.seen; split <;> rfl

theorem Exchange.seen_of_get (hmethod : request.method = "GET") :
    exchange.seen endpoint request = exchange := by
  simp [Exchange.seen, leavesBodyOut, hmethod]

end Seen

section Passage

variable (limits : Limits) (repository : Repository) (state : State) (request : Request)

@[simp] theorem charge_cache (endpoint : Endpoint) :
    (charge state endpoint request).2.cache = state.cache := by
  unfold charge; split <;> rfl

theorem allowHeader_eq_none_iff {endpoint : Endpoint} :
    allowHeader endpoint request = none ↔ request.method ∈ endpoint.methods := by
  simp [allowHeader, List.contains_eq_mem]

/-- What becomes of a request. -/
inductive Passage (exchange : Exchange) : Prop
  /-- Nothing is done for it. -/
  | turnedAway (hcache : exchange.state.cache = state.cache)
      (hcacheCalls : exchange.cacheCalls = []) (hlookups : exchange.lookups = [])
  /-- Its task is performed. -/
  | performed (endpoint : Endpoint) (task : Task)
      (hendpoint : Endpoint.ofPath? request.target.path = some endpoint)
      (hadmitted : (charge state endpoint request).1 = true)
      (hmethod : request.method ∈ endpoint.methods) (hasks : Asks request endpoint task)
      (hexchange : exchange =
        (task.perform limits repository (charge state endpoint request).2).seen endpoint request)

variable {request}

theorem handle_of_endpoint {endpoint : Endpoint}
    (hendpoint : Endpoint.ofPath? request.target.path = some endpoint) :
    handle limits repository state request =
      (dispatch limits repository state endpoint request).seen endpoint request := by
  simp only [handle, hendpoint, Exchange.seen]

theorem dispatch_of_admitted {endpoint : Endpoint}
    (hadmitted : (charge state endpoint request).1 = true)
    (hmethod : request.method ∈ endpoint.methods) :
    dispatch limits repository state endpoint request =
      serve limits repository (charge state endpoint request).2 endpoint request := by
  simp [dispatch, hadmitted, (allowHeader_eq_none_iff request).2 hmethod]

/-- An admitted request of another method is told which methods are allowed. -/
theorem dispatch_of_other_method {endpoint : Endpoint}
    (hadmitted : (charge state endpoint request).1 = true)
    (hmethod : request.method ∉ endpoint.methods) :
    dispatch limits repository state endpoint request =
      ⟨{ Response.empty 405 with allow := allowHeader endpoint request },
        (charge state endpoint request).2, [], []⟩ := by
  have hallow := mt (allowHeader_eq_none_iff request).1 hmethod
  simp [dispatch, hadmitted, Option.isSome_iff_ne_none, hallow]

/-- A request of an allowed method that is admitted and read has its task performed. -/
theorem handle_of_asks {endpoint : Endpoint} {task : Task}
    (hendpoint : Endpoint.ofPath? request.target.path = some endpoint)
    (hadmitted : (charge state endpoint request).1 = true)
    (hmethod : request.method ∈ endpoint.methods) (hasks : Asks request endpoint task) :
    handle limits repository state request =
      (task.perform limits repository (charge state endpoint request).2).seen endpoint request := by
  rw [handle_of_endpoint limits repository state hendpoint,
    dispatch_of_admitted limits repository state hadmitted hmethod, serve,
    ofRequest_eq_ok_iff.2 hasks]

variable (request)

theorem handle_passage :
    Passage limits repository state request (handle limits repository state request) := by
  cases hendpoint : Endpoint.ofPath? request.target.path with
  | none => simp only [handle, hendpoint]; exact .turnedAway rfl rfl rfl
  | some endpoint =>
    rw [handle_of_endpoint limits repository state hendpoint]
    by_cases hadmitted : (charge state endpoint request).1 = true
    · by_cases hmethod : request.method ∈ endpoint.methods
      · rw [dispatch_of_admitted limits repository state hadmitted hmethod]
        cases htask : Task.ofRequest endpoint request with
        | error refusal =>
          refine .turnedAway ?_ ?_ ?_ <;> simp [serve, htask]
        | ok task =>
          refine .performed endpoint task hendpoint hadmitted hmethod
            (ofRequest_eq_ok_iff.1 htask) ?_
          simp [serve, htask]
      · have hallow := mt (allowHeader_eq_none_iff request).1 hmethod
        refine .turnedAway ?_ ?_ ?_ <;>
          simp [dispatch, hadmitted, Option.isSome_iff_ne_none, hallow]
    · refine .turnedAway ?_ ?_ ?_ <;> simp [dispatch, hadmitted]

end Passage

end MangaRecommender.Http
