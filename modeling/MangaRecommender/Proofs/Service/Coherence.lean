import Mathlib
import MangaRecommender.Proofs.Generator.Outcome
import MangaRecommender.Proofs.Service.Provenance

/-!
# Coherence of the cache

The service never asks whether a cached payload still holds: whoever replaces the tables has to
invalidate what may have changed.  If every replacement is followed by a successful invalidation of
a collection before the collection is asked for again, then every answer, cached or not, is what
the generator finds in the current tables.  The invariant of the run is that the payload of the
collection is up to date, unless a replacement is still waiting for its invalidation.
-/

namespace MangaRecommender.Service

/-! ## Invalidations -/

/-- A request that is meant to evict the payload of a key: it names the collection, or its user
while the user owns the collection. -/
inductive Invalidates (tables : Tables) (key : CacheKey) : Request → Prop
  | collection : Invalidates tables key (.invalidateCollection key.user key.collection)
  | user (howns : tables.ownsCollection key.user key.collection = true) :
      Invalidates tables key (.invalidateUser key.user)

/-- The step is an invalidation of the key whose lookups and cache calls succeed. -/
def Removes (limits : Limits) (world : World) (key : CacheKey) (next : Step) : Prop :=
  ∃ request, next = .request request ∧ Invalidates world.tables key request ∧
    (perform limits world.repository world.cache request).answer = .ok .evicted ∧
    world.cache.Succeeds (perform limits world.repository world.cache request).cacheCalls

/-- Every replacement of the tables is followed by a successful invalidation of the key before the
collection is asked for the next time. -/
def InvalidatesReplacements (limits : Limits) (start : World) (key : CacheKey)
    (steps : List Step) : Prop :=
  ∀ before tables middle after,
    steps = before ++ .change (.tables tables) ::
      (middle ++ .request (.forCollection key.user key.collection) :: after) →
    .request (.forCollection key.user key.collection) ∉ middle →
    ∃ early next late, middle = early ++ next :: late ∧
      Removes limits (worldAfter limits start (before ++ .change (.tables tables) :: early)) key next

theorem mem_userCollections {tables : Tables} {user : Uuid} {collection : Int32}
    (howns : tables.ownsCollection user collection = true) :
    collection ∈ tables.userCollections user := by
  obtain ⟨row, hrow, hmatch⟩ := List.any_eq_true.1 howns
  obtain ⟨hid, howner⟩ := Bool.and_eq_true_iff.1 hmatch
  exact List.mem_map.2 ⟨row, List.mem_filter.2 ⟨hrow, howner⟩, eq_of_beq hid⟩

variable {limits : Limits} {world start : World} {key : CacheKey}

/-- A successful invalidation leaves no payload under the key. -/
theorem get?_of_removes {next : Step} (hremoves : Removes limits world key next) :
    (step limits world next).2.cache.store.get? key.text = none := by
  obtain ⟨request, rfl, hinvalidates, hanswer, hsucceeds⟩ := hremoves
  cases hinvalidates with
  | collection =>
    have hkey : key.text ∈ [key].map CacheKey.text := List.mem_singleton.2 rfl
    show (world.cache.evict [key]).store.get? key.text = none
    rw [Cache.get?_evict, if_pos ⟨hsucceeds, hkey⟩]
  | user howns =>
    cases hcollections : world.repository.userCollections key.user with
    | error failure =>
      simp only [perform, Reply.map, invalidateUser_of_error _ _ hcollections, Except.map] at hanswer
      cases hanswer
    | ok collections =>
      have hreply := invalidateUser_of_ok world.repository world.cache hcollections
      obtain rfl : world.tables.userCollections key.user = collections :=
        Except.ok.inj (Tables.eq_of_unlessFailing_eq_ok hcollections).2
      have hkey : key.text ∈ ((world.tables.userCollections key.user).map
          (CacheKey.mk key.user)).map CacheKey.text :=
        List.mem_map_of_mem (List.mem_map_of_mem (mem_userCollections howns))
      simp only [perform, Reply.map, hreply] at hsucceeds
      simp only [step, perform, Reply.map, hreply]
      rw [Cache.get?_evict, if_pos ⟨hsucceeds, hkey⟩]

/-! ## The invariant -/

/-- The payload of a key, if there is one, is the text of what the generator finds in the current
tables when no call fails. -/
def IsCurrent (limits : Limits) (world : World) (key : CacheKey) : Prop :=
  ∀ payload, world.cache.store.get? key.text = some payload →
    ∃ recommendation, (Generator.forCollection (world.tables.repository .none) limits key.user
        key.collection).result = .ok recommendation ∧
      payload = ScoredManga.encodeList recommendation.items

/-- What the generator answers although calls may fail it answers without failing calls, too. -/
theorem result_without_outages {user : Uuid} {collection : Int32} {recommendation : Recommendation}
    (hresult : (Generator.forCollection world.repository limits user collection).result =
      .ok recommendation) :
    (Generator.forCollection (world.tables.repository .none) limits user collection).result =
      .ok recommendation :=
  Generator.forCollection_refines (Tables.repository_refines world.tables world.outages) limits user
    collection recommendation hresult

/-- A replacement of the tables in the run is still waiting for the invalidation of the key. -/
def AwaitsInvalidation (limits : Limits) (start : World) (key : CacheKey) (steps : List Step) :
    Prop :=
  ∃ before tables middle, steps = before ++ .change (.tables tables) :: middle ∧
    .request (.forCollection key.user key.collection) ∉ middle ∧
    ∀ early next late, middle = early ++ next :: late →
      ¬Removes limits (worldAfter limits start (before ++ .change (.tables tables) :: early)) key
        next

theorem AwaitsInvalidation.concat {steps : List Step} {last : Step}
    (hawaits : AwaitsInvalidation limits start key steps)
    (hrequest : last ≠ .request (.forCollection key.user key.collection))
    (hremoves : ¬Removes limits (worldAfter limits start steps) key last) :
    AwaitsInvalidation limits start key (steps ++ [last]) := by
  obtain ⟨before, tables, middle, rfl, hmiddle, hnone⟩ := hawaits
  refine ⟨before, tables, middle ++ [last], by simp, ?_, ?_⟩
  · intro hmem
    rcases List.mem_append.1 hmem with hmem | hmem
    · exact hmiddle hmem
    · exact hrequest (List.mem_singleton.1 hmem).symm
  · intro early next late hsplit
    rcases List.eq_nil_or_concat late with rfl | ⟨late, final, rfl⟩
    · obtain ⟨rfl, hnext⟩ := List.append_inj' hsplit rfl
      rw [← (List.cons.inj hnext).1]
      exact hremoves
    · rw [List.concat_eq_append, ← List.cons_append, ← List.append_assoc] at hsplit
      exact hnone early next late (List.append_inj' hsplit rfl).1

/-- While an invalidation is awaited the collection is not asked for. -/
theorem AwaitsInvalidation.absurd_request {steps before after : List Step}
    (hinvalidates : InvalidatesReplacements limits start key steps)
    (hsteps : steps = before ++ .request (.forCollection key.user key.collection) :: after)
    (hawaits : AwaitsInvalidation limits start key before) : False := by
  obtain ⟨earlier, tables, middle, rfl, hmiddle, hnone⟩ := hawaits
  rw [List.append_assoc, List.cons_append] at hsteps
  obtain ⟨early, next, late, hsplit, hremoves⟩ :=
    hinvalidates earlier tables middle after hsteps hmiddle
  exact hnone early next late hsplit hremoves

theorem isCurrent_of_removes {next : Step} (hremoves : Removes limits world key next) :
    IsCurrent limits (step limits world next).2 key := by
  intro payload hpayload
  rw [get?_of_removes hremoves] at hpayload
  cases hpayload

/-- A request keeps a payload that is up to date, and writes no other. -/
theorem IsCurrent.request {request : Request} (hcurrent : IsCurrent limits world key) :
    IsCurrent limits (step limits world (.request request)).2 key := by
  intro payload hpayload
  obtain hold | ⟨writer, recommendation, hrequest, htext, hwrites⟩ := get?_perform hpayload
  · exact hcurrent payload hold
  · obtain rfl := CacheKey.text_injective htext
    exact ⟨recommendation, result_without_outages hwrites.generated, hwrites.payload_eq⟩

theorem isCurrent_or_awaitsInvalidation (hempty : start.cache.store = .empty) {steps : List Step}
    (halone : StoresAlone steps) (hinvalidates : InvalidatesReplacements limits start key steps)
    {before after : List Step} (hsteps : steps = before ++ after) :
    IsCurrent limits (worldAfter limits start before) key ∨
      AwaitsInvalidation limits start key before := by
  induction before using List.reverseRecOn generalizing after with
  | nil =>
    left
    intro payload hpayload
    have hnone : start.cache.store.get? key.text = none := by rw [hempty, PayloadStore.get?_empty]
    exact absurd (hnone.symm.trans hpayload) (by simp)
  | append_singleton before last ih =>
    rw [List.append_assoc, List.singleton_append] at hsteps
    have hbefore := ih hsteps
    have hchange : ∀ change, ¬Removes limits (worldAfter limits start before) key
        (.change change) := by
      rintro change ⟨request, hrequest, -⟩
      cases hrequest
    rw [worldAfter_concat]
    cases last with
    | change change =>
      cases change with
      | tables tables => exact .inr ⟨before, tables, [], rfl, List.not_mem_nil, by simp⟩
      | outages outages =>
        exact hbefore.imp id fun hawaits => hawaits.concat (by simp) (hchange _)
      | cacheOutages failing =>
        exact hbefore.imp id fun hawaits => hawaits.concat (by simp) (hchange _)
      | payload text payload =>
        exact absurd (hsteps ▸ List.mem_append_right _ List.mem_cons_self) (halone text payload)
    | request request =>
      by_cases hremoves : Removes limits (worldAfter limits start before) key (.request request)
      · exact .inl (isCurrent_of_removes hremoves)
      · refine hbefore.imp IsCurrent.request fun hawaits => hawaits.concat ?_ hremoves
        rintro hrequest
        rw [hrequest] at hsteps
        exact hawaits.absurd_request hinvalidates hsteps

/-! ## Answers -/

/-- An answer from a cache that is up to date, or from the generator, is what the generator finds
in the current tables; a hit knows the items in their stored form. -/
theorem IsCurrent.answer (hcurrent : IsCurrent limits world key) {answer : Served}
    (hanswer : (forCollection limits world.repository world.cache key.user key.collection).answer =
      .ok answer) :
    ∃ recommendation, (Generator.forCollection (world.tables.repository .none) limits key.user
        key.collection).result = .ok recommendation ∧
      answer.items.map ScoredManga.storedForm =
        recommendation.items.map ScoredManga.storedForm := by
  cases forCollection_outcome limits world.repository world.cache key.user key.collection with
  | refused failure hrefused _ =>
    rw [hrefused] at hanswer
    cases hanswer
  | hit items _ hcached hhit _ =>
    obtain ⟨-, payload, hpayload, hdecode⟩ := Cache.read_eq_some_iff.1 hcached
    obtain ⟨recommendation, hcurrent, rfl⟩ := hcurrent payload hpayload
    rw [Generator.decodeList?_of_forCollection hcurrent] at hdecode
    rw [hhit] at hanswer
    cases hanswer
    cases hdecode
    exact ⟨recommendation, hcurrent, ScoredManga.map_storedForm_map_storedForm _⟩
  | generated recommendation _ hrun hgenerated _ =>
    rw [hgenerated] at hanswer
    cases hanswer
    exact ⟨recommendation, result_without_outages hrun, rfl⟩

/-- If every replacement of the tables is followed by a successful invalidation before the
collection is asked for again, then every answer for the collection in the run, cached or
not, has the items that the generator finds in the tables of that moment with no call failing. -/
theorem answers_current_of_invalidatesReplacements (limits : Limits) (start : World)
    (hempty : start.cache.store = .empty) (steps : List Step) (halone : StoresAlone steps)
    (key : CacheKey) (hinvalidates : InvalidatesReplacements limits start key steps)
    (before after : List Step) (answer : Served)
    (hsteps : steps = before ++ .request (.forCollection key.user key.collection) :: after)
    (hanswer : (forCollection limits (worldAfter limits start before).repository
      (worldAfter limits start before).cache key.user key.collection).answer = .ok answer) :
    ∃ recommendation,
      (Generator.forCollection ((worldAfter limits start before).tables.repository .none) limits
        key.user key.collection).result = .ok recommendation ∧
      answer.items.map ScoredManga.storedForm =
        recommendation.items.map ScoredManga.storedForm := by
  obtain hcurrent | hawaits :=
    isCurrent_or_awaitsInvalidation hempty halone hinvalidates hsteps
  · exact hcurrent.answer hanswer
  · exact (hawaits.absurd_request hinvalidates hsteps).elim

/-! ## A replacement that is invalidated -/

/-- The small catalogue with another manga in place of the second one. -/
def otherManga : Tables :=
  { twoManga with
    manga := [⟨1, "First", none, none, none⟩, ⟨3, "Third", some (.infinity true), none, none⟩]
    links := fun kind => if kind = .genre then [(1, 5), (3, 5)] else [] }

/-- No candidates can be looked up. -/
def candidatesFail : Outages := fun call => if call = .candidates then some .emptyList else none

def beforeInvalidation : List Step :=
  [.request (.forCollection reader 10), .change (.tables otherManga),
    .change (.outages candidatesFail)]

/-- The collection is cached, the tables are replaced, the user is invalidated, and the collection
is asked for twice. -/
def replacedOnce : List Step :=
  beforeInvalidation ++ [.request (.invalidateUser reader), .change (.outages .none),
    .request (.forCollection reader 10), .request (.forCollection reader 10)]

theorem storesAlone_replacedOnce : StoresAlone replacedOnce := by
  intro key payload hmem
  simp [replacedOnce, beforeInvalidation] at hmem

theorem removes_invalidateUser :
    Removes ⟨5, 5⟩ (worldAfter ⟨5, 5⟩ (.ofTables twoManga) beforeInvalidation) ⟨reader, 10⟩
      (.request (.invalidateUser reader)) :=
  ⟨.invalidateUser reader, rfl, .user (by decide +kernel), by decide +kernel, by decide +kernel⟩

theorem invalidatesReplacements_replacedOnce :
    InvalidatesReplacements ⟨5, 5⟩ (.ofTables twoManga) ⟨reader, 10⟩ replacedOnce := by
  intro before tables middle after hsplit _
  rw [replacedOnce, beforeInvalidation] at hsplit
  cases before with
  | nil => simp at hsplit
  | cons first before =>
    cases before with
    | nil =>
      simp only [List.cons_append, List.nil_append, List.cons.injEq] at hsplit
      obtain ⟨rfl, htables, hsplit⟩ := hsplit
      cases htables
      match middle with
      | [] => simp at hsplit
      | [_] => simp at hsplit
      | _ :: _ :: late =>
        simp only [List.cons_append, List.cons.injEq] at hsplit
        obtain ⟨rfl, rfl, -⟩ := hsplit
        exact ⟨[.change (.outages candidatesFail)], _, late, rfl, removes_invalidateUser⟩
    | cons second before =>
      simp only [List.cons_append, List.nil_append, List.cons.injEq] at hsplit
      have hmem : Step.change (.tables tables) ∈ before ++ .change (.tables tables) ::
          (middle ++ .request (.forCollection reader 10) :: after) := by simp
      rw [← hsplit.2.2] at hmem
      simp at hmem

/-- The last answer is a hit, and its infinite rating has become an absent one. -/
def lastAnswer : Served :=
  ⟨[⟨3, "Third", none, none, .ofNat 2,
    ⟨.ofNat 2, Score.zero, Score.zero, Score.zero, Score.zero, Score.zero⟩⟩], none⟩

theorem answer_replacedOnce :
    (forCollection ⟨5, 5⟩ (worldAfter ⟨5, 5⟩ (.ofTables twoManga) replacedOnce.dropLast).repository
      (worldAfter ⟨5, 5⟩ (.ofTables twoManga) replacedOnce.dropLast).cache reader 10).answer =
        .ok lastAnswer := by
  decide +kernel

theorem answers_current_of_invalidatesReplacements_replacedOnce :
    (World.ofTables twoManga).cache.store = .empty ∧ StoresAlone replacedOnce ∧
      InvalidatesReplacements ⟨5, 5⟩ (.ofTables twoManga) ⟨reader, 10⟩ replacedOnce ∧
      ∃ recommendation,
        (Generator.forCollection (otherManga.repository .none) ⟨5, 5⟩ reader 10).result =
          .ok recommendation ∧
        lastAnswer.items.map ScoredManga.storedForm =
          recommendation.items.map ScoredManga.storedForm :=
  ⟨rfl, storesAlone_replacedOnce, invalidatesReplacements_replacedOnce,
    answers_current_of_invalidatesReplacements ⟨5, 5⟩ (.ofTables twoManga) rfl replacedOnce
      storesAlone_replacedOnce ⟨reader, 10⟩ invalidatesReplacements_replacedOnce
      replacedOnce.dropLast [] lastAnswer rfl answer_replacedOnce⟩

end MangaRecommender.Service
