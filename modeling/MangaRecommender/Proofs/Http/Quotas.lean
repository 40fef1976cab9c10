import Mathlib
import MangaRecommender.Http.Run
import MangaRecommender.Proofs.Http.Failures
import MangaRecommender.Proofs.RateLimiter
import MangaRecommender.Proofs.Service.Provenance

/-!
# Requests over the quotas

The gateway counts the requests for recommendations of each client and refuses those behind the
first few, before anything is looked up for them.  It counts them whatever becomes of them, and it
counts nothing else.  A repository might fail with the status of a refusal, which the gateway
passes on like any other failure; then a lookup was made.
-/

namespace MangaRecommender.Http

/-! ## What is counted -/

/-- The request is for one of the paths on which recommendations are generated. -/
def Request.isLimited (request : Request) : Bool :=
  (Endpoint.ofPath? request.target.path).any Endpoint.isLimited

/-- The request gets the recommendations of a collection or posts a list. -/
def Request.generates (request : Request) : Bool :=
  match Endpoint.ofPath? request.target.path with
  | some (.collection _) => request.method == "GET"
  | some .list => request.method == "POST"
  | _ => false

/-- The two paths on which recommendations are generated are requested with their own methods. -/
def UsesOwnMethods (steps : List Step) : Prop :=
  ∀ request, .request request ∈ steps → request.isLimited = true → request.generates = true

/-- How many requests for recommendations a client makes. -/
def generations (client : IpAddress) (steps : List Step) : Nat :=
  steps.countP fun
    | .request request => request.generates && request.client == client
    | .change _ => false

/-- The clients of the requests that the gateway counts, in order. -/
def countedClients (steps : List Step) : List IpAddress :=
  steps.filterMap fun
    | .request request => if request.isLimited then some request.client else none
    | .change _ => none

theorem Request.isLimited_of_generates {request : Request} (hgenerates : request.generates = true) :
    request.isLimited = true := by
  unfold generates at hgenerates
  unfold isLimited
  split at hgenerates
  · next hpath => rw [hpath]; rfl
  · next hpath => rw [hpath]; rfl
  · cases hgenerates

theorem Request.generates_of_own {request : Request}
    (hown : request.isLimited = true → request.generates = true) :
    request.generates = request.isLimited := by
  rw [Bool.eq_iff_iff]
  exact ⟨isLimited_of_generates, hown⟩

theorem count_countedClients {steps : List Step} (hown : UsesOwnMethods steps)
    (client : IpAddress) : (countedClients steps).count client = generations client steps := by
  rw [List.count_eq_countP, countedClients, List.countP_filterMap, generations]
  apply List.countP_congr
  intro next hnext
  cases next with
  | change change => simp
  | request request =>
    simp only [Request.generates_of_own (hown request hnext)]
    cases request.isLimited <;> simp

section Handled

variable (limits : Limits) (repository : Repository) (state : State)

theorem limiter_perform (task : Task) :
    (task.perform limits repository state).state.limiter = state.limiter := by
  cases task <;> rfl

theorem limiter_dispatch (endpoint : Endpoint) (request : Request) :
    (dispatch limits repository state endpoint request).state.limiter =
      (charge state endpoint request).2.limiter := by
  by_cases hadmitted : (charge state endpoint request).1 = true
  · by_cases hmethod : request.method ∈ endpoint.methods
    · rw [dispatch_of_admitted limits repository state hadmitted hmethod, serve]
      split
      · rfl
      · exact limiter_perform limits repository _ _
    · rw [dispatch_of_other_method limits repository state hadmitted hmethod]
  · simp [dispatch, hadmitted]

theorem limiter_handle (request : Request) :
    (handle limits repository state request).state.limiter =
      if request.isLimited then (state.limiter.check request.client).2 else state.limiter := by
  cases hendpoint : Endpoint.ofPath? request.target.path with
  | none => simp [handle, Request.isLimited, hendpoint]
  | some endpoint =>
    rw [handle_of_endpoint limits repository state hendpoint, Exchange.seen_state, limiter_dispatch]
    cases hlimited : endpoint.isLimited <;>
      simp [charge, Request.isLimited, hendpoint, hlimited]

theorem findsNoPlace_iff (request : Request) :
    request.FindsNoPlace state ↔
      request.isLimited = true ∧ (state.limiter.check request.client).1 = false := by
  unfold Request.FindsNoPlace Request.isLimited
  cases Endpoint.ofPath? request.target.path with
  | none => simp
  | some endpoint => cases hlimited : endpoint.isLimited <;> simp [charge, hlimited]

end Handled

/-! ## Runs -/

section Runs

variable (limits : Limits) {perMinute perDay : Nat} {site : Site} {checks : List IpAddress}

/-- A step shows the limiter the client of its request, if it is counted. -/
theorem hasSeen_step (hseen : site.limiter.HasSeen perMinute perDay checks) (next : Step) :
    (site.step limits next).2.limiter.HasSeen perMinute perDay
      (checks ++ countedClients [next]) := by
  cases next with
  | change change => exact (List.append_nil checks).symm ▸ hseen
  | request request =>
    have hlimiter : (site.step limits (.request request)).2.limiter =
        if request.isLimited then (site.limiter.check request.client).2 else site.limiter :=
      limiter_handle limits _ site.state request
    rw [hlimiter]
    cases hlimited : request.isLimited with
    | false => simpa [countedClients, hlimited] using hseen
    | true => simpa [countedClients, hlimited] using hseen.check_snd request.client

theorem hasSeen_after (hseen : site.limiter.HasSeen perMinute perDay checks) (steps : List Step) :
    (site.after limits steps).limiter.HasSeen perMinute perDay
      (checks ++ countedClients steps) := by
  induction steps generalizing site checks with
  | nil => exact (List.append_nil checks).symm ▸ hseen
  | cons first rest ih =>
    have hrest := ih (hasSeen_step limits hseen first)
    rwa [List.append_assoc, countedClients, countedClients, ← List.filterMap_append] at hrest

/-- What a quota makes of a request that follows others. -/
structure ObeysQuota (quota : Nat) (before : List Step) (repository : Repository) (state : State)
    (request : Request) (exchange : Exchange) : Prop where
  /-- A request for recommendations is refused once its client has made as many as the quota,
  whatever became of those. -/
  refused : request.generates = true →
    (exchange.IsRefused state ↔ quota ≤ generations request.client before)
  /-- Its status is that of a refusal then, and besides if the first lookup that fails for it has
  this status. -/
  status : request.generates = true →
    (exchange.response.status = 429 ↔ quota ≤ generations request.client before ∨
      FailsAs repository 429 exchange.lookups)
  /-- Nothing is looked up, in the cache or elsewhere, for a request that is refused. -/
  untouched : exchange.response.status = 429 →
    ¬FailsAs repository 429 exchange.lookups → exchange.IsRefused state
  /-- Requests for the health of the gateway and for evictions are not counted and not refused. -/
  unlimited : request.isLimited = false → exchange.state.limiter = state.limiter ∧
    ¬exchange.IsRefused state ∧
    (exchange.response.status = 429 ↔ FailsAs repository 429 exchange.lookups)

/-- The first checks of each address are admitted, as many as the smaller quota.  So are the first
requests for recommendations of each client, as long as nobody uses another method on the two
paths where these are generated. -/
theorem quotas_admit_first (perMinute perDay : Nat) :
    (∀ clients index, ((RateLimiter.ofLimits perMinute perDay).checkAll clients)[index]? =
      clients[index]?.map fun client =>
        decide ((clients.take index).count client < min perMinute perDay)) ∧
    ∀ (limits : Limits) (world : World) (before : List Step), UsesOwnMethods before →
      ∀ (repository : Repository) (request : Request),
        let state := (Site.after limits ⟨world, .ofLimits perMinute perDay⟩ before).state
        ObeysQuota (min perMinute perDay) before repository state request
          (handle limits repository state request) := by
  have hfresh := RateLimiter.hasSeen_ofLimits perMinute perDay
  refine ⟨fun clients index => hfresh.getElem?_checkAll clients index, ?_⟩
  intro limits world before hown repository request state
  have hverdict : (state.limiter.check request.client).1 = false ↔
      min perMinute perDay ≤ generations request.client before := by
    have hseen : state.limiter.HasSeen perMinute perDay ([] ++ countedClients before) :=
      hasSeen_after limits hfresh before
    rw [List.nil_append] at hseen
    rw [← count_countedClients hown, ← not_lt, ← decide_eq_false_iff_not]
    exact iff_of_eq (congrArg (· = false) (hseen.check_fst request.client))
  set exchange := handle limits repository state request
  have hrefused : exchange.IsRefused state ↔ request.FindsNoPlace state :=
    isRefused_iff limits repository state
  have hstatus : exchange.response.status = 429 ↔ request.FindsNoPlace state ∨
      FailsAs repository 429 exchange.lookups := by
    rw [handle_status_iff limits repository state (by decide), and_iff_left rfl]
  rw [findsNoPlace_iff] at hrefused hstatus
  constructor
  · intro hgenerates
    rw [hrefused, hverdict, and_iff_right (Request.isLimited_of_generates hgenerates)]
  · intro hgenerates
    rw [hstatus, hverdict, and_iff_right (Request.isLimited_of_generates hgenerates)]
  · intro hcode hlookups
    exact hrefused.2 ((hstatus.1 hcode).resolve_right hlookups)
  · intro hunlimited
    have hplace : ¬(request.isLimited = true ∧
        (state.limiter.check request.client).1 = false) := by
      simp [hunlimited]
    refine ⟨?_, mt hrefused.1 hplace, hstatus.trans (or_iff_right hplace)⟩
    rw [limiter_handle, hunlimited]
    rfl

end Runs

/-! ### Places that are spent -/

/-- A request of one client. -/
def localRequest (method path : String) (headers : List (String × String)) : Request where
  method := method
  target := ⟨path.toList, []⟩
  headers := headers
  body := ""
  client := .v4 [127, 0, 0, 1]

/-- A request for the recommendations of a collection. -/
def localGet : Request :=
  localRequest "GET" "/api/v1/recommendations/10"
    [("x-user-id", "00000000-0000-0000-0000-000000000007")]

/-- One request without a user, one that is not limited, and one without a body. -/
def spentPlaces : List Step :=
  [.request (localRequest "GET" "/api/v1/recommendations/10" []),
    .request (localRequest "DELETE" "/api/v1/recommendations/cache" []),
    .request (localRequest "POST" "/api/v1/recommendations/query-list" [])]

theorem quotas_admit_first_spentPlaces :
    UsesOwnMethods spentPlaces ∧ generations localGet.client spentPlaces = 2 ∧
      (let site := Site.after ⟨5, 5⟩ ⟨.ofTables .empty, .ofLimits 2 3⟩ spentPlaces
      (handle ⟨5, 5⟩ site.world.repository site.state localGet).IsRefused site.state) := by
  have hown : UsesOwnMethods spentPlaces := by
    intro request hrequest
    simp only [spentPlaces, List.mem_cons, Step.request.injEq, List.not_mem_nil, or_false]
      at hrequest
    obtain rfl | rfl | rfl := hrequest <;> decide +kernel
  have hcount : generations localGet.client spentPlaces = 2 := by decide +kernel
  refine ⟨hown, hcount, ?_⟩
  have hobeys := (quotas_admit_first 2 3).2 ⟨5, 5⟩ (.ofTables .empty) spentPlaces hown
    (Tables.empty.repository .none) localGet
  exact (hobeys.refused (by decide +kernel)).2 hcount.ge

/-- A catalogue with one collection, whose genres cannot be looked up just now. -/
def busySite : Site where
  world :=
    { tables := ⟨[], fun _ => [], [⟨10, Service.reader, [1]⟩], none⟩
      outages := fun call => if call = .links .genre then some (.tooManyRequests "busy") else none
      cache := .empty }
  limiter := .ofLimits 1 1

/-- The first request of a client has the status of a refusal, though there was a place for it and
the cache and the repository were asked. -/
theorem status_of_busySite :
    let exchange := handle ⟨5, 5⟩ busySite.world.repository busySite.state localGet
    localGet.generates = true ∧ generations localGet.client [] < min 1 1 ∧
      exchange.response.status = 429 ∧ exchange.cacheCalls ≠ [] ∧ exchange.lookups ≠ [] := by
  decide +kernel

end MangaRecommender.Http
