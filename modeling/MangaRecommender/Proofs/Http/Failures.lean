import Mathlib
import MangaRecommender.Proofs.Http.Confinement
import MangaRecommender.Proofs.Service.Failures

/-!
# Failing lookups as responses

A request that has made a failing lookup is answered with the failure of the first one.  The other
way round the status has to be looked at.  The gateway gives some statuses of its own accord, for
requests that it cannot read, for pages out of range and for collections or seeds that are not
there.  A status that is none of these is that of a request without a place in the quotas, or it
comes from a lookup.
-/

namespace MangaRecommender.Http

/-- The statuses of requests that find a place and meet no failing lookup. -/
def ownStatuses : List Nat := [200, 204, 400, 401, 404, 405, 415, 422]

/-- The first lookup that fails does so with a failure of a given status. -/
def FailsAs (repository : Repository) (status : Nat) (lookups : List Lookup) : Prop :=
  ∃ failure, lookups.findSome? repository.failure? = some failure ∧ failure.status = status

theorem not_failsAs_nil (repository : Repository) (status : Nat) :
    ¬FailsAs repository status [] := by
  rintro ⟨failure, hfailing, -⟩
  cases hfailing

/-! ## Requests that are not read -/

/-- Whatever is wrong with what was read, the request is to blame. -/
def BlamesRequest {Part : Type} (read : Except Refusal Part) : Prop :=
  ∀ refusal, read = .error refusal → refusal.response.status ∈ ownStatuses

section Reading

variable {First Second : Type}

theorem BlamesRequest.bind {first : Except Refusal First} {next : First → Except Refusal Second}
    (hfirst : BlamesRequest first) (hnext : ∀ part, BlamesRequest (next part)) :
    BlamesRequest (first >>= next) := by
  intro refusal hrefusal
  cases first with
  | error other =>
    obtain rfl : other = refusal := Except.error.inj hrefusal
    exact hfirst other rfl
  | ok part => exact hnext part refusal hrefusal

theorem BlamesRequest.pure (part : First) : BlamesRequest (.ok part) := nofun

theorem blamesRequest_user (request : Request) : BlamesRequest request.user := by
  intro refusal hrefusal
  unfold Request.user at hrefusal
  split at hrefusal
  · cases hrefusal
    decide
  · split at hrefusal
    · cases hrefusal
      decide
    · cases hrefusal

theorem blamesRequest_listParameters (request : Request) :
    BlamesRequest request.listParameters := by
  intro refusal hrefusal
  unfold Request.listParameters at hrefusal
  split at hrefusal
  · cases hrefusal
    decide
  · cases hrefusal

theorem blamesRequest_seedIds (request : Request) : BlamesRequest request.seedIds := by
  intro refusal hrefusal
  unfold Request.seedIds at hrefusal
  split at hrefusal
  · cases hread : seedList.read request.body.toList with
    | error fault =>
      rw [hread] at hrefusal
      cases hrefusal
      cases fault <;> decide
    | ok read =>
      rw [hread] at hrefusal
      cases hrefusal
  · cases hrefusal
    decide

theorem blamesRequest_collectionOf (segment : String) : BlamesRequest (collectionOf segment) := by
  intro refusal hrefusal
  unfold collectionOf at hrefusal
  split at hrefusal
  · cases hrefusal
  · cases hrefusal
    decide

theorem blamesRequest_ofRequest (endpoint : Endpoint) (request : Request) :
    BlamesRequest (Task.ofRequest endpoint request) := by
  cases endpoint with
  | health => exact .pure _
  | list =>
    exact (blamesRequest_listParameters request).bind fun parameters =>
      (blamesRequest_seedIds request).bind fun ids => .pure _
  | collection segment =>
    exact (blamesRequest_user request).bind fun user =>
      (blamesRequest_collectionOf segment).bind fun collection =>
        (blamesRequest_listParameters request).bind fun parameters => .pure _
  | userCache => exact (blamesRequest_user request).bind fun user => .pure _
  | collectionCache segment =>
    exact (blamesRequest_user request).bind fun user =>
      (blamesRequest_collectionOf segment).bind fun collection => .pure _

end Reading

/-! ## Requests that are answered -/

section Answers

variable (limits : Limits) (repository : Repository) (state : State)

theorem status_response (failure : Failure) : failure.response.status = failure.status := rfl

theorem status_mem_of_ofService {failure : Failure} (hown : failure ∈ Failure.ofService) :
    failure.status ∈ ownStatuses := by
  fin_cases hown <;> decide

theorem writePage_status (parameters : ListParameters) (served : Served) :
    (∃ response, writePage parameters served = .ok response ∧ response.status ∈ ownStatuses) ∨
      ∃ failure, writePage parameters served = .error failure ∧
        failure.status ∈ ownStatuses := by
  obtain ⟨response, hwrite, hstatus⟩ | ⟨failure, hwrite, hrange⟩ :=
    writePage_cases parameters served
  · exact .inl ⟨response, hwrite, by rw [hstatus]; decide⟩
  · exact .inr ⟨failure, hwrite, by rw [ListParameters.status_of_validate hrange]; decide⟩

section Conclusions

variable {repository} {Value : Type} {reply : Reply Value}
  {write : Value → Except Failure Response}

theorem conclude_of_error {failure : Failure} (hanswer : reply.answer = .error failure) :
    (conclude state reply write).response = failure.response := by
  simp only [conclude, hanswer, Except.bind]

theorem conclude_of_failing (hfails : reply.traced.FailsByLookup repository) {failure : Failure}
    (hfailing : reply.lookups.findSome? repository.failure? = some failure) :
    (conclude state reply write).response = failure.response :=
  conclude_of_error state (hfails.ofLookup failure hfailing)

/-- A status that is none of the gateway's own comes from a lookup. -/
theorem conclude_status_iff (hfails : reply.traced.FailsByLookup repository)
    (hwrite : ∀ value, (∃ response, write value = .ok response ∧ response.status ∈ ownStatuses) ∨
      ∃ failure, write value = .error failure ∧ failure.status ∈ ownStatuses)
    {status : Nat} (hforeign : status ∉ ownStatuses) :
    (conclude state reply write).response.status = status ↔
      FailsAs repository status reply.lookups := by
  constructor
  · rintro rfl
    cases hanswer : reply.answer with
    | ok value =>
      refine absurd ?_ hforeign
      obtain ⟨response, hresponse, hown⟩ | ⟨failure, hfailure, hown⟩ := hwrite value
      · simpa only [conclude, hanswer, Except.bind, hresponse] using hown
      · simpa only [conclude, hanswer, Except.bind, hfailure, status_response] using hown
    | error failure =>
      rw [conclude_of_error state hanswer] at hforeign ⊢
      obtain hown | hlookup := hfails.cause failure hanswer
      · exact absurd (status_mem_of_ofService hown) hforeign
      · exact ⟨failure, hlookup, rfl⟩
  · rintro ⟨failure, hfailing, rfl⟩
    rw [conclude_of_failing state hfails hfailing, status_response]

end Conclusions

theorem perform_of_failing (task : Task) {failure : Failure}
    (hfailing : (task.perform limits repository state).lookups.findSome? repository.failure? =
      some failure) :
    (task.perform limits repository state).response = failure.response := by
  cases task with
  | reportHealth => cases hfailing
  | recommendForList parameters ids =>
    exact conclude_of_failing state (Service.failsByLookup_forList limits repository _ ids) hfailing
  | recommendForCollection user collection parameters =>
    exact conclude_of_failing state
      (Service.failsByLookup_forCollection limits repository _ user collection) hfailing
  | invalidateUser user =>
    exact conclude_of_failing state (Service.failsByLookup_invalidateUser repository _ user)
      hfailing
  | invalidateCollection user collection => cases hfailing

theorem perform_status_iff (task : Task) {status : Nat} (hforeign : status ∉ ownStatuses) :
    (task.perform limits repository state).response.status = status ↔
      FailsAs repository status (task.perform limits repository state).lookups := by
  cases task with
  | reportHealth =>
    refine iff_of_false ?_ (not_failsAs_nil repository status)
    rintro (rfl : 200 = status)
    exact hforeign (by decide)
  | recommendForList parameters ids =>
    exact conclude_status_iff state (Service.failsByLookup_forList limits repository _ ids)
      (writePage_status parameters) hforeign
  | recommendForCollection user collection parameters =>
    exact conclude_status_iff state
      (Service.failsByLookup_forCollection limits repository _ user collection)
      (writePage_status parameters) hforeign
  | invalidateUser user =>
    exact conclude_status_iff state (Service.failsByLookup_invalidateUser repository _ user)
      (fun _ => .inl ⟨_, rfl, by decide⟩) hforeign
  | invalidateCollection user collection =>
    refine iff_of_false ?_ (not_failsAs_nil repository status)
    rintro (rfl : 204 = status)
    exact hforeign (by decide)

variable (request : Request)

/-- The failure of the first failing lookup is the answer, whose body `HEAD` leaves out. -/
theorem handle_of_failing {failure : Failure}
    (hfailing : (handle limits repository state request).lookups.findSome? repository.failure? =
      some failure) :
    (handle limits repository state request).response =
      if request.method = "HEAD" then { failure.response with body := [] }
      else failure.response := by
  cases handle_passage limits repository state request with
  | turnedAway hcache hcacheCalls hlookups =>
    rw [hlookups] at hfailing
    cases hfailing
  | performed endpoint task hendpoint hadmitted hmethod hasks hexchange =>
    rw [hexchange, Exchange.seen_lookups] at hfailing
    have hresponse := perform_of_failing limits repository _ task hfailing
    have hhead : leavesBodyOut endpoint request = decide (request.method = "HEAD") := by
      by_cases hhead : request.method = "HEAD"
      · rw [hhead] at hmethod
        simp [leavesBodyOut, hhead, hmethod]
      · simp [leavesBodyOut, hhead]
    rw [hexchange, Exchange.seen, hhead]
    split
    · next hleft => rw [if_pos (of_decide_eq_true hleft), hresponse]
    · next hkept => rw [if_neg fun hleft => hkept (decide_eq_true hleft), hresponse]

/-! ## Requests that are not let in -/

/-- The endpoint of the request is limited, and its client has no place left. -/
def Request.FindsNoPlace (request : Request) (state : State) : Prop :=
  ∃ endpoint, Endpoint.ofPath? request.target.path = some endpoint ∧
    (charge state endpoint request).1 = false

/-- A request was refused before anything was done for it. -/
structure Exchange.IsRefused (exchange : Exchange) (state : State) : Prop where
  status : exchange.response.status = 429
  cacheCalls : exchange.cacheCalls = []
  lookups : exchange.lookups = []
  cache : exchange.state.cache = state.cache

variable {request}

theorem isRefused_of_findsNoPlace (hspent : request.FindsNoPlace state) :
    (handle limits repository state request).IsRefused state := by
  obtain ⟨endpoint, hendpoint, hrefused⟩ := hspent
  rw [handle_of_endpoint limits repository state hendpoint]
  constructor
  · rw [Exchange.seen_status]
    simp only [dispatch, hrefused]
    rfl
  · simp [dispatch, hrefused]
  · simp [dispatch, hrefused]
  · simp [dispatch, hrefused]

/-- A status that is none of the gateway's own is that of a refusal, or comes from a lookup. -/
theorem handle_status_iff {status : Nat} (hforeign : status ∉ ownStatuses) :
    (handle limits repository state request).response.status = status ↔
      (request.FindsNoPlace state ∧ status = 429) ∨
        FailsAs repository status (handle limits repository state request).lookups := by
  by_cases hspent : request.FindsNoPlace state
  · obtain ⟨hstatus, -, hlookups, -⟩ := isRefused_of_findsNoPlace limits repository state hspent
    rw [hstatus, hlookups, or_iff_left (not_failsAs_nil repository status), and_iff_right hspent,
      eq_comm]
  · rw [or_iff_right fun hrefused => hspent hrefused.1]
    cases hendpoint : Endpoint.ofPath? request.target.path with
    | none =>
      simp only [handle, hendpoint]
      refine iff_of_false ?_ (not_failsAs_nil repository status)
      rintro (rfl : 404 = status)
      exact hforeign (by decide)
    | some endpoint =>
      have hadmitted : (charge state endpoint request).1 = true :=
        Bool.eq_true_of_not_eq_false fun hrefused => hspent ⟨endpoint, hendpoint, hrefused⟩
      rw [handle_of_endpoint limits repository state hendpoint, Exchange.seen_status,
        Exchange.seen_lookups]
      by_cases hmethod : request.method ∈ endpoint.methods
      · rw [dispatch_of_admitted limits repository state hadmitted hmethod, serve]
        cases htask : Task.ofRequest endpoint request with
        | error refusal =>
          refine iff_of_false ?_ (not_failsAs_nil repository status)
          rintro (rfl : refusal.response.status = status)
          exact hforeign (blamesRequest_ofRequest endpoint request refusal htask)
        | ok task => exact perform_status_iff limits repository _ task hforeign
      · rw [dispatch_of_other_method limits repository state hadmitted hmethod]
        refine iff_of_false ?_ (not_failsAs_nil repository status)
        rintro (rfl : 405 = status)
        exact hforeign (by decide)

/-- A request is refused if it finds no place, and only then. -/
theorem isRefused_iff :
    (handle limits repository state request).IsRefused state ↔ request.FindsNoPlace state := by
  refine ⟨fun hrefused => ?_, isRefused_of_findsNoPlace limits repository state⟩
  have hstatus := (handle_status_iff limits repository state (by decide)).1 hrefused.status
  rw [hrefused.lookups, or_iff_left (not_failsAs_nil repository 429)] at hstatus
  exact hstatus.1

end Answers

end MangaRecommender.Http
