import Mathlib
import MangaRecommender.Http.Run
import MangaRecommender.Proofs.Http.Gateway
import MangaRecommender.Proofs.Service.Replies

/-!
# What a request can do to the cache

A request leaves the cache alone, stores the recommendations of the collection that it asks for,
or evicts collections of its own user.  It does one of the latter two only under the id of its
user, and only if it succeeds or if all that is wrong with it is the page that it wants: the page
is looked at last, when the recommendations have been generated and stored.
-/

namespace MangaRecommender

theorem ListParameters.status_of_validate {parameters : ListParameters} {failure : Failure}
    (hrange : parameters.validate = .error failure) : failure.status = 400 := by
  unfold validate at hrange
  split at hrange
  · cases hrange; rfl
  · split at hrange
    · cases hrange; rfl
    · cases hrange

namespace Http

/-- The refusal of a page number or a page size that is out of range. -/
def RefusesPage (request : Request) (response : Response) : Prop :=
  ∃ parameters failure, request.listParameters = .ok parameters ∧
    parameters.validate = .error failure ∧
    (response = failure.response ∨
      request.method = "HEAD" ∧ response = { failure.response with body := [] })

theorem RefusesPage.status {request : Request} {response : Response}
    (hrefuses : RefusesPage request response) : response.status = 400 := by
  obtain ⟨parameters, failure, -, hrange, rfl | ⟨-, rfl⟩⟩ := hrefuses <;>
    exact ListParameters.status_of_validate hrange

theorem RefusesPage.of_response {request : Request} {parameters : ListParameters}
    {failure : Failure} (hparameters : request.listParameters = .ok parameters)
    (hrange : parameters.validate = .error failure) (endpoint : Endpoint) {exchange : Exchange}
    (hresponse : exchange.response = failure.response) :
    RefusesPage request (exchange.seen endpoint request).response := by
  refine ⟨parameters, failure, hparameters, hrange, ?_⟩
  unfold Exchange.seen
  split
  · next hhead =>
    have hmethod : request.method = "HEAD" := by
      simp only [leavesBodyOut, Bool.and_eq_true, beq_iff_eq] at hhead
      exact hhead.1
    exact .inr ⟨hmethod, by rw [hresponse]⟩
  · exact .inl hresponse

/-- Only the range of the page is left to go wrong once there is something to write. -/
theorem writePage_cases (parameters : ListParameters) (served : Served) :
    (∃ response, writePage parameters served = .ok response ∧ response.status = 200) ∨
      ∃ failure, writePage parameters served = .error failure ∧
        parameters.validate = .error failure := by
  unfold writePage ListParameters.paginate
  cases parameters.validate with
  | error failure => exact .inr ⟨failure, rfl, rfl⟩
  | ok => exact .inl ⟨_, rfl, rfl⟩

/-- What a request may do to the cache. -/
inductive Effect (limits : Limits) (repository : Repository) (cache : Cache) (request : Request)
    (exchange : Exchange) : Prop
  | kept (hcache : exchange.state.cache = cache)
  | stored (segment : String) (user : Uuid) (collection : Int32) (recommendation : Recommendation)
      (hendpoint : Endpoint.ofPath? request.target.path = some (.collection segment))
      (huser : request.user = .ok user) (hcollection : collectionOf segment = .ok collection)
      (hrun : (Generator.forCollection repository limits user collection).result =
        .ok recommendation)
      (hcache : exchange.state.cache =
        Service.remember cache ⟨user, collection⟩ recommendation.items)
      (hresponse : exchange.response.status = 200 ∨ RefusesPage request exchange.response)
  | evicted (user : Uuid) (collections : List Int32) (hmethod : request.method = "DELETE")
      (hendpoint : Endpoint.ofPath? request.target.path = some .userCache ∨
        ∃ segment, Endpoint.ofPath? request.target.path = some (.collectionCache segment))
      (huser : request.user = .ok user)
      (hcache : exchange.state.cache = cache.evict (collections.map (CacheKey.mk user)))
      (hresponse : exchange.response.status = 204)

section Requests

variable (limits : Limits) (repository : Repository)

theorem effect_recommendForCollection (state : State) {request : Request} {segment : String}
    {user : Uuid} {collection : Int32} {parameters : ListParameters}
    (hendpoint : Endpoint.ofPath? request.target.path = some (.collection segment))
    (huser : request.user = .ok user) (hcollection : collectionOf segment = .ok collection)
    (hparameters : request.listParameters = .ok parameters) :
    Effect limits repository state.cache request
      (((Task.recommendForCollection user collection parameters).perform limits repository
        state).seen (.collection segment) request) := by
  set exchange := (Task.recommendForCollection user collection parameters).perform limits
    repository state with hexchange
  have hstate : (exchange.seen (.collection segment) request).state.cache =
      (Service.forCollection limits repository state.cache user collection).cache := by
    rw [Exchange.seen_state]; rfl
  cases Service.forCollection_outcome limits repository state.cache user collection with
  | refused failure hanswer hcache => exact .kept (hstate.trans hcache)
  | hit items howns hcached hanswer hcache => exact .kept (hstate.trans hcache)
  | generated recommendation howns hrun hanswer hcache =>
    refine .stored segment user collection recommendation hendpoint huser hcollection hrun
      (hstate.trans hcache) ?_
    obtain ⟨response, hwrite, hstatus⟩ | ⟨failure, hwrite, hrange⟩ :=
      writePage_cases parameters (Service.served recommendation)
    · refine .inl ?_
      have hresponse : exchange.response = response := by
        simp only [hexchange, Task.perform, conclude, hanswer, Except.bind, hwrite]
      rw [Exchange.seen_status, hresponse, hstatus]
    · refine .inr (.of_response hparameters hrange _ ?_)
      simp only [hexchange, Task.perform, conclude, hanswer, Except.bind, hwrite]

theorem effect_invalidateUser (state : State) {request : Request} {user : Uuid}
    (hendpoint : Endpoint.ofPath? request.target.path = some .userCache)
    (hmethod : request.method = "DELETE") (huser : request.user = .ok user) :
    Effect limits repository state.cache request
      (((Task.invalidateUser user).perform limits repository state).seen .userCache request) := by
  cases hcollections : repository.userCollections user with
  | error failure =>
    refine .kept ?_
    simp only [Exchange.seen_state, Task.perform, conclude,
      Service.invalidateUser_of_error repository state.cache hcollections]
  | ok collections =>
    refine .evicted user collections hmethod (.inl hendpoint) huser ?_ ?_ <;>
      simp only [Exchange.seen_state, Exchange.seen_status, Task.perform, conclude,
        Service.invalidateUser_of_ok repository state.cache hcollections]
    rfl

theorem effect_invalidateCollection (state : State) {request : Request} {segment : String}
    {user : Uuid} (collection : Int32)
    (hendpoint : Endpoint.ofPath? request.target.path = some (.collectionCache segment))
    (hmethod : request.method = "DELETE") (huser : request.user = .ok user) :
    Effect limits repository state.cache request
      (((Task.invalidateCollection user collection).perform limits repository state).seen
        (.collectionCache segment) request) := by
  refine .evicted user [collection] hmethod (.inr ⟨segment, hendpoint⟩) huser ?_ ?_
  · simp only [Exchange.seen_state]
    rfl
  · simp only [Exchange.seen_status]
    rfl

theorem handle_effect (state : State) (request : Request) :
    Effect limits repository state.cache request (handle limits repository state request) := by
  cases handle_passage limits repository state request with
  | turnedAway hcache => exact .kept hcache
  | performed endpoint task hendpoint hadmitted hmethod hasks hexchange =>
    rw [hexchange, ← charge_cache state request endpoint]
    cases hasks with
    | health => exact .kept (by rw [Exchange.seen_state]; rfl)
    | list => exact .kept (by rw [Exchange.seen_state]; rfl)
    | collection huser hcollection hparameters =>
      exact effect_recommendForCollection limits repository _ hendpoint huser hcollection
        hparameters
    | userCache huser =>
      exact effect_invalidateUser limits repository _ hendpoint (List.mem_singleton.1 hmethod) huser
    | collectionCache huser hcollection =>
      exact effect_invalidateCollection limits repository _ _ hendpoint
        (List.mem_singleton.1 hmethod) huser

end Requests

/-- How far a request's effect on the cache goes. -/
structure Confines (limits : Limits) (repository : Repository) (request : Request)
    (response : Response) (before after : Cache) : Prop where
  /-- Only entries of the request's own user change. -/
  own : ∀ text, after.store.get? text ≠ before.store.get? text →
    ∃ user collection, request.user = .ok user ∧ text = CacheKey.text ⟨user, collection⟩
  /-- Nothing changes for a request that fails. -/
  failed : response.status ∈ [401, 404, 405, 415, 422, 429, 500] → after = before
  /-- Nothing changes for a bad request, unless only its page is bad. -/
  bad : response.status = 400 → ¬RefusesPage request response → after = before
  /-- Nothing changes at the endpoints that are not about a user. -/
  unowned : Endpoint.ofPath? request.target.path = some .health ∨
    Endpoint.ofPath? request.target.path = some .list → after = before
  /-- A request that reads changes nothing, or it stores what was generated for its collection. -/
  reading : request.method = "GET" ∨ request.method = "HEAD" → after = before ∨
    ∃ segment user collection recommendation,
      Endpoint.ofPath? request.target.path = some (.collection segment) ∧
      request.user = .ok user ∧ collectionOf segment = .ok collection ∧
      (Generator.forCollection repository limits user collection).result = .ok recommendation ∧
      ∀ text, after.store.get? text =
        if text = CacheKey.text ⟨user, collection⟩ then
          some (ScoredManga.encodeList recommendation.items)
        else before.store.get? text

variable {limits : Limits} {repository : Repository} {cache : Cache} {request : Request}

namespace Effect

variable {exchange : Exchange} (heffect : Effect limits repository cache request exchange)

include heffect

theorem own {text : String}
    (hchanged : exchange.state.cache.store.get? text ≠ cache.store.get? text) :
    ∃ user collection, request.user = .ok user ∧ text = CacheKey.text ⟨user, collection⟩ := by
  cases heffect with
  | kept hcache => exact absurd (by rw [hcache]) hchanged
  | stored segment user collection recommendation hendpoint huser hcollection hrun hcache =>
    rw [hcache, Service.remember, Cache.get?_write] at hchanged
    split at hchanged
    · next hwritten => exact ⟨user, collection, huser, hwritten.2⟩
    · exact absurd rfl hchanged
  | evicted user collections hmethod hendpoint huser hcache =>
    rw [hcache, Cache.get?_evict] at hchanged
    split at hchanged
    · next hevicted =>
      rw [List.map_map] at hevicted
      obtain ⟨collection, -, rfl⟩ := List.mem_map.1 hevicted.2
      exact ⟨user, collection, huser, rfl⟩
    · exact absurd rfl hchanged

/-- A request with an effect succeeds, or it is refused for its page. -/
theorem response (hchanged : exchange.state.cache ≠ cache) :
    exchange.response.status = 200 ∨ exchange.response.status = 204 ∨
      RefusesPage request exchange.response := by
  cases heffect with
  | kept hcache => exact absurd hcache hchanged
  | stored _ _ _ _ _ _ _ _ _ hresponse => exact hresponse.imp_right .inr
  | evicted _ _ _ _ _ _ hresponse => exact .inr (.inl hresponse)

theorem confines :
    Confines limits repository request exchange.response cache exchange.state.cache where
  own _ hchanged := heffect.own hchanged
  failed hstatus := by
    by_contra hchanged
    obtain hok | hok | hpage := heffect.response hchanged
    · simp [hok] at hstatus
    · simp [hok] at hstatus
    · simp [hpage.status] at hstatus
  bad hstatus hpage := by
    by_contra hchanged
    obtain hok | hok | hrefuses := heffect.response hchanged
    · simp [hok] at hstatus
    · simp [hok] at hstatus
    · exact hpage hrefuses
  unowned hunowned := by
    cases heffect with
    | kept hcache => exact hcache
    | stored _ _ _ _ hendpoint => simp [hendpoint] at hunowned
    | evicted _ _ _ hendpoint =>
      obtain huserCache | ⟨segment, hcollectionCache⟩ := hendpoint
      · simp [huserCache] at hunowned
      · simp [hcollectionCache] at hunowned
  reading hreads := by
    cases heffect with
    | kept hcache => exact .inl hcache
    | stored segment user collection recommendation hendpoint huser hcollection hrun hcache =>
      rw [hcache]
      by_cases hfailing : CacheOperation.set ∈ cache.failing
      · exact .inl (Cache.mutate_of_mem hfailing _)
      · refine .inr ⟨segment, user, collection, recommendation, hendpoint, huser, hcollection,
          hrun, fun text => ?_⟩
        rw [Service.remember, Cache.get?_write]
        simp only [hfailing, not_false_eq_true, true_and]
    | evicted _ _ hmethod => simp [hmethod] at hreads

end Effect

/-! ## Runs -/

section Runs

variable (limits : Limits) (start : Site) (steps : List Step)

/-- A step that is not made for a user, and that puts no payload under a key of the user. -/
def Spares (user : Uuid) : Step → Prop
  | .request request => request.user ≠ .ok user
  | .change (.payload text _) => ∀ collection, text ≠ CacheKey.text ⟨user, collection⟩
  | .change _ => True

theorem get?_step_of_spares (site : Site) {next : Step} {key : CacheKey}
    (hspares : Spares key.user next) :
    (site.step limits next).2.world.cache.store.get? key.text =
      site.world.cache.store.get? key.text := by
  cases next with
  | request request =>
    by_contra hchanged
    obtain ⟨user, collection, huser, htext⟩ :=
      (handle_effect limits site.world.repository site.state request).own hchanged
    obtain rfl : key = ⟨user, collection⟩ := CacheKey.text_injective htext
    exact hspares huser
  | change change =>
    cases change with
    | tables tables => rfl
    | outages outages => rfl
    | cacheOutages failing => rfl
    | payload text payload =>
      exact (PayloadStore.get?_insert _ _ _ _).trans (if_neg (hspares key.collection).symm)

/-- What is cached for a user outlasts everything that others do. -/
theorem get?_after_of_spares {key : CacheKey} (hspares : ∀ next ∈ steps, Spares key.user next) :
    (start.after limits steps).world.cache.store.get? key.text =
      start.world.cache.store.get? key.text := by
  induction steps generalizing start with
  | nil => rfl
  | cons first rest ih =>
    have hfirst := hspares first List.mem_cons_self
    have hrest := fun next hnext => hspares next (List.mem_cons_of_mem first hnext)
    exact (ih (start.step limits first).2 hrest).trans (get?_step_of_spares limits start hfirst)

/-- Wherever a run has led, the next request changes entries of its own user only, and none of
them if it is refused for anything but its page.  So a run that is made for others leaves the
entries of a user as they were. -/
theorem request_confined_after :
    (∀ request : Request,
      let before := start.after limits steps
      let answered := before.step limits (.request request)
      ∃ response, answered.1.map Exchange.response = some response ∧
        Confines limits before.world.repository request response before.world.cache
          answered.2.world.cache) ∧
    ∀ key : CacheKey, (∀ next ∈ steps, Spares key.user next) →
      (start.after limits steps).world.cache.store.get? key.text =
        start.world.cache.store.get? key.text := by
  constructor
  · intro request
    exact ⟨_, rfl, (handle_effect limits _ (start.after limits steps).state request).confines⟩
  · intro key hspares
    exact get?_after_of_spares limits start steps hspares

end Runs

/-! ### Requests of somebody else -/

def resident : Uuid := ⟨1, by decide⟩

def visitor : Uuid := ⟨2, by decide⟩

/-- A payload of the resident is left, though the tables no longer have the collection. -/
def residence : Site where
  world := ⟨.empty, .none, ⟨⟨[(CacheKey.text ⟨resident, 10⟩, "[]")]⟩, []⟩⟩
  limiter := .ofLimits 5 5

def visit (method path : String) : Request where
  method := method
  target := ⟨path.toList, []⟩
  headers := [("x-user-id", "00000000-0000-0000-0000-000000000002")]
  body := ""
  client := .v4 [127, 0, 0, 1]

/-- The visitor wants the collection and deletes it, and everything that is the visitor's own. -/
def visits : List Step :=
  [.request (visit "GET" "/api/v1/recommendations/10"),
    .change (.payload (CacheKey.text ⟨visitor, 10⟩) "[]"),
    .request (visit "DELETE" "/api/v1/recommendations/10/cache"),
    .request (visit "DELETE" "/api/v1/recommendations/cache")]

theorem request_confined_after_visits :
    (∀ next ∈ visits, Spares resident next) ∧
      (residence.after ⟨5, 5⟩ visits).world.cache.store.get? (CacheKey.text ⟨resident, 10⟩) =
        some "[]" := by
  have hvisit : ∀ method path, Spares resident (.request (visit method path)) := by
    intro method path
    show (visit "" "").user ≠ .ok resident
    decide +kernel
  have hpayload : Spares resident (.change (.payload (CacheKey.text ⟨visitor, 10⟩) "[]")) := by
    intro collection htext
    have huser : visitor = resident := congrArg CacheKey.user (CacheKey.text_injective htext)
    exact absurd huser (by decide)
  have hspares : ∀ next ∈ visits, Spares resident next := by
    simp only [visits, List.forall_mem_cons]
    exact ⟨hvisit _ _, hpayload, hvisit _ _, hvisit _ _, fun _ => nofun⟩
  exact ⟨hspares, (request_confined_after ⟨5, 5⟩ residence visits).2 ⟨resident, 10⟩ hspares⟩

end Http

end MangaRecommender
