import Mathlib
import MangaRecommender.Http.Run
import MangaRecommender.Proofs.Http.Failures
import MangaRecommender.Proofs.Service.MapError
import MangaRecommender.Proofs.Service.Provenance

/-!
# What a client learns of internal failures

An internal failure has a kind and a text that only the operator may see.  Two repositories that
fail together and differ in nothing but such kinds and texts are the same to all clients, and leave
the same behind for later requests.  The only trace of an internal failure is a response that is the
same for all of them.
-/

namespace MangaRecommender

/-! ## Failures that look alike -/

namespace Failure

/-- Two failures of which a client learns the same. -/
def LooksLike (left right : Failure) : Prop :=
  left = right ∨ left.isInternal = true ∧ right.isInternal = true

/-- The failure without what only the operator may see. -/
def redacted (failure : Failure) : Failure := if failure.isInternal then .internal "" else failure

theorem LooksLike.redacted_eq {left right : Failure} (hlooks : left.LooksLike right) :
    left.redacted = right.redacted := by
  obtain rfl | ⟨hleft, hright⟩ := hlooks
  · rfl
  · rw [redacted, redacted, if_pos hleft, if_pos hright]

theorem keepsOwn_redacted : KeepsOwn redacted := by
  unfold KeepsOwn
  decide

theorem response_redacted (failure : Failure) : failure.redacted.response = failure.response := by
  cases failure <;> rfl

theorem status_eq_iff_isInternal (failure : Failure) :
    failure.status = 500 ↔ failure.isInternal = true := by
  cases failure <;> simp [status, isInternal]

end Failure

/-- Two answers that are the same, or failures that look alike. -/
inductive AnswersAlike {Value : Type} : Except Failure Value → Except Failure Value → Prop
  | ok (value : Value) : AnswersAlike (.ok value) (.ok value)
  | error {left right : Failure} (hlooks : left.LooksLike right) :
      AnswersAlike (.error left) (.error right)

theorem AnswersAlike.refl {Value : Type} (answer : Except Failure Value) :
    AnswersAlike answer answer := by
  cases answer with
  | ok value => exact .ok value
  | error failure => exact .error (.inl rfl)

theorem AnswersAlike.mapError_eq {Value : Type} {left right : Except Failure Value}
    (halike : AnswersAlike left right) :
    left.mapError Failure.redacted = right.mapError Failure.redacted := by
  cases halike with
  | ok value => rfl
  | error hlooks => exact congrArg Except.error hlooks.redacted_eq

/-- Two repositories that answer every lookup alike. -/
structure Repository.LooksLike (left right : Repository) : Prop where
  links : ∀ kind ids, AnswersAlike (left.links kind ids) (right.links kind ids)
  ratings : ∀ ids, AnswersAlike (left.ratings ids) (right.ratings ids)
  dates : ∀ ids, AnswersAlike (left.dates ids) (right.dates ids)
  candidates : ∀ query, AnswersAlike (left.candidates query) (right.candidates query)
  owns : ∀ user collection, AnswersAlike (left.owns user collection) (right.owns user collection)
  collectionManga : ∀ user collection,
    AnswersAlike (left.collectionManga user collection) (right.collectionManga user collection)
  userCollections : ∀ user, AnswersAlike (left.userCollections user) (right.userCollections user)

theorem Repository.LooksLike.mapError_eq {left right : Repository}
    (hlooks : left.LooksLike right) :
    left.mapError Failure.redacted = right.mapError Failure.redacted := by
  simp only [mapError, fun kind ids => (hlooks.links kind ids).mapError_eq,
    fun ids => (hlooks.ratings ids).mapError_eq, fun ids => (hlooks.dates ids).mapError_eq,
    fun query => (hlooks.candidates query).mapError_eq,
    fun user collection => (hlooks.owns user collection).mapError_eq,
    fun user collection => (hlooks.collectionManga user collection).mapError_eq,
    fun user => (hlooks.userCollections user).mapError_eq]

/-- The same calls fail, with failures that look alike. -/
def Outages.LooksLike (left right : Outages) : Prop :=
  ∀ call, Option.Rel Failure.LooksLike (left call) (right call)

theorem Outages.LooksLike.refl (outages : Outages) : outages.LooksLike outages := by
  intro call
  cases outages call with
  | none => exact .none
  | some failure => exact .some (.inl rfl)

theorem Outages.LooksLike.unlessFailing {left right : Outages} (hlooks : left.LooksLike right)
    {Value : Type} (call : RepositoryCall) (answer : Except Failure Value) :
    AnswersAlike (Tables.unlessFailing left call answer)
      (Tables.unlessFailing right call answer) := by
  have hcall := hlooks call
  unfold Tables.unlessFailing
  generalize left call = leftFailure at hcall ⊢
  generalize right call = rightFailure at hcall ⊢
  cases hcall with
  | none => exact .refl answer
  | some hfailures => exact .error hfailures

theorem Outages.LooksLike.repository {left right : Outages} (hlooks : left.LooksLike right)
    (tables : Tables) : (tables.repository left).LooksLike (tables.repository right) where
  links kind _ := hlooks.unlessFailing (.links kind) _
  ratings _ := hlooks.unlessFailing .ratings _
  dates _ := hlooks.unlessFailing .dates _
  candidates _ := hlooks.unlessFailing .candidates _
  owns _ _ := hlooks.unlessFailing .owns _
  collectionManga _ _ := hlooks.unlessFailing .collectionManga _
  userCollections _ := hlooks.unlessFailing .userCollections _

namespace Http

/-! ## One request -/

section Requests

variable (limits : Limits) (repository : Repository) (state : State)

theorem conclude_mapError {Value : Type} (reply : Reply Value)
    (write : Value → Except Failure Response) :
    conclude state (reply.mapError Failure.redacted) write = conclude state reply write := by
  obtain ⟨answer, cache, cacheCalls, lookups⟩ := reply
  cases answer with
  | ok value => rfl
  | error failure =>
    have hresponse := failure.response_redacted
    simp only [conclude, Reply.mapError, Except.mapError, Except.bind, hresponse]

theorem perform_mapError (task : Task) :
    task.perform limits (repository.mapError Failure.redacted) state =
      task.perform limits repository state := by
  cases task with
  | reportHealth => rfl
  | recommendForList parameters ids =>
    rw [Task.perform, Service.forList_mapError repository limits _ Failure.keepsOwn_redacted,
      conclude_mapError]
    rfl
  | recommendForCollection user collection parameters =>
    rw [Task.perform, Service.forCollection_mapError repository limits _
      Failure.keepsOwn_redacted, conclude_mapError]
    rfl
  | invalidateUser user =>
    rw [Task.perform, Service.invalidateUser_mapError, conclude_mapError]
    rfl
  | invalidateCollection user collection => rfl

theorem handle_mapError (request : Request) :
    handle limits (repository.mapError Failure.redacted) state request =
      handle limits repository state request := by
  simp only [handle, dispatch, serve, perform_mapError]

theorem handle_eq_of_looksLike {left right : Repository} (hlooks : left.LooksLike right)
    (request : Request) : handle limits left state request = handle limits right state request := by
  rw [← handle_mapError limits left, hlooks.mapError_eq, handle_mapError]

/-- The response to all internal failures. -/
def internalError : Response :=
  .json 500 (Json.object [("error", Json.quoted "Internal server error".toList)])

/-- What a response says of internal failures. -/
structure Conceals (repository : Repository) (request : Request) (exchange : Exchange) : Prop where
  /-- The status is that of an internal failure exactly if the first lookup that fails does so with
  one, and this is its result. -/
  status : exchange.response.status = 500 ↔
    ∃ failure, exchange.lookups.findSome? repository.failure? = some failure ∧
      failure.isInternal = true
  /-- There is one response to all of them, whose body is left out for `HEAD`. -/
  response : exchange.response.status = 500 →
    exchange.response =
      if request.method = "HEAD" then { internalError with body := [] } else internalError

theorem conceals_handle (request : Request) :
    Conceals repository request (handle limits repository state request) := by
  have hstatus : (handle limits repository state request).response.status = 500 ↔
      ∃ failure, (handle limits repository state request).lookups.findSome? repository.failure? =
        some failure ∧ failure.isInternal = true := by
    simp only [← Failure.status_eq_iff_isInternal]
    rw [handle_status_iff limits repository state (by decide)]
    exact or_iff_right fun hrefused => absurd hrefused.2 (by decide)
  refine ⟨hstatus, fun hinternal => ?_⟩
  obtain ⟨failure, hfailing, hinternal⟩ := hstatus.1 hinternal
  have hresponse : failure.response = internalError := by
    cases failure <;> first | rfl | cases hinternal
  rw [handle_of_failing limits repository state request hfailing, hresponse]

end Requests

/-! ## Runs -/

/-- Two sites with the same caches and quotas, at which the same calls fail. -/
structure Site.LooksLike (left right : Site) : Prop where
  tables : left.world.tables = right.world.tables
  outages : left.world.outages.LooksLike right.world.outages
  cache : left.world.cache = right.world.cache
  limiter : left.limiter = right.limiter

/-- Two steps that are the same, or that make the same calls fail. -/
inductive Step.LooksLike : Step → Step → Prop
  | same (next : Step) : LooksLike next next
  | outages {left right : Outages} (hlooks : left.LooksLike right) :
      LooksLike (.change (.outages left)) (.change (.outages right))

section Runs

variable (limits : Limits) {left right : Site}

theorem step_looksLike (hsites : left.LooksLike right) {first second : Step}
    (hsteps : first.LooksLike second) :
    (left.step limits first).1 = (right.step limits second).1 ∧
      (left.step limits first).2.LooksLike (right.step limits second).2 := by
  obtain ⟨htables, houtages, hcache, hlimiter⟩ := hsites
  cases hsteps with
  | same =>
    cases first with
    | request request =>
      have hrepositories : left.world.repository.LooksLike right.world.repository := by
        unfold World.repository
        rw [htables]
        exact houtages.repository _
      have hstates : left.state = right.state := by
        rw [Site.state, Site.state, hcache, hlimiter]
      have hexchange : handle limits left.world.repository left.state request =
          handle limits right.world.repository right.state request := by
        rw [hstates]
        exact handle_eq_of_looksLike limits _ hrepositories request
      refine ⟨congrArg some hexchange, htables, houtages, ?_, ?_⟩
      · exact congrArg (fun exchange => exchange.state.cache) hexchange
      · exact congrArg (fun exchange => exchange.state.limiter) hexchange
    | change change =>
      refine ⟨rfl, ?_⟩
      cases change with
      | tables tables => exact ⟨rfl, houtages, hcache, hlimiter⟩
      | outages outages => exact ⟨htables, .refl outages, hcache, hlimiter⟩
      | cacheOutages failing =>
        refine ⟨htables, houtages, ?_, hlimiter⟩
        exact congrArg (fun cache : Cache => { cache with failing }) hcache
      | payload key payload =>
        refine ⟨htables, houtages, ?_, hlimiter⟩
        exact congrArg (fun cache : Cache => { cache with
          store := cache.store.insert key payload }) hcache
  | outages hlooks => exact ⟨rfl, htables, hlooks, hcache, hlimiter⟩

theorem run_looksLike {first second : List Step} (hsteps : List.Forall₂ Step.LooksLike first second)
    (hsites : left.LooksLike right) :
    left.exchanges limits first = right.exchanges limits second ∧
      (left.after limits first).LooksLike (right.after limits second) := by
  induction hsteps generalizing left right with
  | nil => exact ⟨rfl, hsites⟩
  | cons hnext hrest ih =>
    obtain ⟨hexchange, hnextSites⟩ := step_looksLike limits hsites hnext
    obtain ⟨hexchanges, hafter⟩ := ih hnextSites
    refine ⟨?_, hafter⟩
    rw [Site.exchanges, Site.exchanges, hexchange, hexchanges]

/-- Internal failures of the repository that replace each other, with any kinds and any texts,
change no response, no call, no lookup and nothing that is kept, in one request or in a run; and
there is one response to all of them. -/
theorem internal_failures_concealed (limits : Limits) :
    (∀ left right : Repository, left.LooksLike right → ∀ state request,
      handle limits left state request = handle limits right state request) ∧
    (∀ left right : Site, left.LooksLike right →
      ∀ first second, List.Forall₂ Step.LooksLike first second →
        left.exchanges limits first = right.exchanges limits second ∧
        (left.after limits first).LooksLike (right.after limits second)) ∧
    ∀ repository state request,
      Conceals repository request (handle limits repository state request) := by
  refine ⟨?_, ?_, ?_⟩
  · intro left right hlooks state request
    exact handle_eq_of_looksLike limits state hlooks request
  · intro left right hsites first second hsteps
    exact run_looksLike limits hsteps hsites
  · intro repository state request
    exact conceals_handle limits repository state request

end Runs

/-! ### One call after the other -/

/-- One call fails. -/
def outageOf (call : RepositoryCall) (failure : Failure) : Outages :=
  fun other => if other = call then some failure else none

theorem outageOf_looksLike (call : RepositoryCall) {left right : Failure}
    (hlooks : left.LooksLike right) : (outageOf call left).LooksLike (outageOf call right) := by
  intro other
  unfold outageOf
  split
  · exact .some hlooks
  · exact .none

/-- A site with one collection, whose owner cannot be looked up. -/
def ownerless (failure : Failure) : Site where
  world :=
    { tables := ⟨[], fun _ => [], [⟨10, Service.reader, [1]⟩], none⟩
      outages := outageOf .owns failure
      cache := .empty }
  limiter := .ofLimits 5 5

/-- A request for the recommendations of the collection. -/
def ownersRequest (method : String) : Request where
  method := method
  target := ⟨"/api/v1/recommendations/10".toList, []⟩
  headers := [("x-user-id", "00000000-0000-0000-0000-000000000007")]
  body := ""
  client := .v4 [127, 0, 0, 1]

/-- Three requests, before, while and after the genres cannot be looked up. -/
def threeRequests (failure : Failure) : List Step :=
  [.request (ownersRequest "GET"), .change (.outages (outageOf (.links .genre) failure)),
    .request (ownersRequest "GET"), .change (.outages .none), .request (ownersRequest "GET")]

theorem internal_failures_concealed_threeRequests :
    (ownerless (.database "timeout")).LooksLike (ownerless (.cache "refused")) ∧
      List.Forall₂ Step.LooksLike (threeRequests (.internal "bug"))
        (threeRequests (.database "closed")) ∧
      ((ownerless (.database "timeout")).exchanges ⟨5, 5⟩ (threeRequests (.internal "bug"))).map
        (Option.map fun exchange => exchange.response.status) =
          [some 500, none, some 500, none, some 200] ∧
      (ownerless (.database "timeout")).exchanges ⟨5, 5⟩ (threeRequests (.internal "bug")) =
        (ownerless (.cache "refused")).exchanges ⟨5, 5⟩ (threeRequests (.database "closed")) := by
  have hsites : (ownerless (.database "timeout")).LooksLike (ownerless (.cache "refused")) :=
    ⟨rfl, outageOf_looksLike .owns (.inr ⟨rfl, rfl⟩), rfl, rfl⟩
  have hsteps : List.Forall₂ Step.LooksLike (threeRequests (.internal "bug"))
      (threeRequests (.database "closed")) :=
    .cons (.same _) (.cons (.outages (outageOf_looksLike _ (.inr ⟨rfl, rfl⟩)))
      (.cons (.same _) (.cons (.same _) (.cons (.same _) .nil))))
  refine ⟨hsites, hsteps, by decide +kernel, ?_⟩
  exact ((internal_failures_concealed ⟨5, 5⟩).2.1 _ _ hsites _ _ hsteps).1

/-- A request of the method `HEAD` that meets an internal failure has the status of one, but not the
body that others have. -/
theorem head_without_body :
    let site := ownerless (.database "timeout")
    let exchange := handle ⟨5, 5⟩ site.world.repository site.state (ownersRequest "HEAD")
    exchange.lookups.findSome? site.world.repository.failure? = some (.database "timeout") ∧
      exchange.response.status = 500 ∧ exchange.response.body = [] ∧
      exchange.response ≠ internalError := by
  decide +kernel

end Http

end MangaRecommender
