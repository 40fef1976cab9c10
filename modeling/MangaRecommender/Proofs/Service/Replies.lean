import Mathlib
import MangaRecommender.Proofs.Cache.Key
import MangaRecommender.Proofs.Cache.ReadThrough
import MangaRecommender.Service.Run

/-!
# What a step can do to the cache

A request for a collection is refused, hits the cache, or generates items and tries to write them
under its own key.  An eviction takes its keys out of the store or does nothing.  So a payload
that is found after a step was there before it or was written by it.
-/

namespace MangaRecommender.Service

/-- What may come of asking for the recommendations of a collection. -/
inductive CollectionOutcome (limits : Limits) (repository : Repository) (cache : Cache)
    (user : Uuid) (collection : Int32) (reply : Reply Served) : Prop
  | refused (failure : Failure) (hanswer : reply.answer = .error failure)
      (hcache : reply.cache = cache)
  | hit (items : List ScoredManga) (howns : repository.owns user collection = .ok true)
      (hcached : cached cache ⟨user, collection⟩ = some items)
      (hanswer : reply.answer = .ok ⟨items, none⟩) (hcache : reply.cache = cache)
  | generated (recommendation : Recommendation)
      (howns : repository.owns user collection = .ok true)
      (hrun : (Generator.forCollection repository limits user collection).result =
        .ok recommendation)
      (hanswer : reply.answer = .ok (served recommendation))
      (hcache : reply.cache = remember cache ⟨user, collection⟩ recommendation.items)

section Requests

variable (limits : Limits) (repository : Repository) (cache : Cache)

theorem forCollection_outcome (user : Uuid) (collection : Int32) :
    CollectionOutcome limits repository cache user collection
      (forCollection limits repository cache user collection) := by
  unfold forCollection
  simp only [Repository.lookUpOwner]
  split
  · next failure _ => exact .refused failure rfl rfl
  · exact .refused _ rfl rfl
  · next howns =>
    split
    · next items hcached => exact .hit items howns hcached rfl rfl
    · simp only [generate]
      split
      · next failure _ => exact .refused failure rfl rfl
      · next recommendation hrun => exact .generated recommendation howns hrun rfl rfl

/-- The key of a working cache with a readable payload is a hit for its owner. -/
theorem forCollection_of_cached {user : Uuid} {collection : Int32} {items : List ScoredManga}
    (howns : repository.owns user collection = .ok true)
    (hcached : cached cache ⟨user, collection⟩ = some items) :
    forCollection limits repository cache user collection =
      ⟨.ok ⟨items, none⟩, cache, [.get (CacheKey.text ⟨user, collection⟩)],
        [.owns user collection]⟩ := by
  simp only [forCollection, Repository.lookUpOwner, howns, hcached]

theorem invalidateUser_of_ok {user : Uuid} {collections : List Int32}
    (hcollections : repository.userCollections user = .ok collections) :
    invalidateUser repository cache user =
      ⟨.ok (), cache.evict (collections.map (CacheKey.mk user)),
        Cache.evictionCalls (collections.map (CacheKey.mk user)), [.userCollections user]⟩ := by
  simp only [invalidateUser, Repository.lookUpUserCollections, hcollections]

theorem invalidateUser_of_error {user : Uuid} {failure : Failure}
    (hcollections : repository.userCollections user = .error failure) :
    invalidateUser repository cache user =
      ⟨.error failure, cache, [], [.userCollections user]⟩ := by
  simp only [invalidateUser, Repository.lookUpUserCollections, hcollections]

/-- An invalidation evicts keys of its own user only, and may evict nothing at all. -/
theorem cache_invalidateUser (user : Uuid) :
    ∃ collections : List Int32, (invalidateUser repository cache user).cache =
      cache.evict (collections.map (CacheKey.mk user)) := by
  cases hcollections : repository.userCollections user with
  | error failure =>
    rw [invalidateUser_of_error repository cache hcollections]
    exact ⟨[], rfl⟩
  | ok collections =>
    rw [invalidateUser_of_ok repository cache hcollections]
    exact ⟨collections, rfl⟩

end Requests

/-- A request wrote a payload: its user owned the collection, the generator answered, and the
payload is the text of the items that were served. -/
structure Writes (limits : Limits) (repository : Repository) (cache : Cache) (key : CacheKey)
    (recommendation : Recommendation) (payload : String) : Prop where
  owns : repository.owns key.user key.collection = .ok true
  generated : (Generator.forCollection repository limits key.user key.collection).result =
    .ok recommendation
  answered : (forCollection limits repository cache key.user key.collection).answer =
    .ok (served recommendation)
  payload_eq : payload = ScoredManga.encodeList recommendation.items

variable {limits : Limits} {repository : Repository} {cache : Cache}

/-- A payload after a request was there before it, or the request wrote it under its key. -/
theorem get?_perform {request : Request} {text payload : String}
    (hpayload : (perform limits repository cache request).cache.store.get? text = some payload) :
    cache.store.get? text = some payload ∨
      ∃ key recommendation, request = .forCollection key.user key.collection ∧ text = key.text ∧
        Writes limits repository cache key recommendation payload := by
  cases request with
  | forCollection user collection =>
    have hstored : (forCollection limits repository cache user collection).cache.store.get? text =
      some payload := hpayload
    cases forCollection_outcome limits repository cache user collection with
    | refused failure hanswer hcache => exact .inl (hcache ▸ hstored)
    | hit items howns hcached hanswer hcache => exact .inl (hcache ▸ hstored)
    | generated recommendation howns hrun hanswer hcache =>
      rw [hcache, remember, Cache.get?_write] at hstored
      split at hstored
      · next hwritten =>
        exact .inr ⟨⟨user, collection⟩, recommendation, rfl, hwritten.2, howns, hrun, hanswer,
          (Option.some.inj hstored).symm⟩
      · exact .inl hstored
  | forList ids => exact .inl hpayload
  | invalidateUser user =>
    obtain ⟨collections, hcache⟩ := cache_invalidateUser repository cache user
    have hstored : (invalidateUser repository cache user).cache.store.get? text = some payload :=
      hpayload
    rw [hcache, Cache.get?_evict] at hstored
    split at hstored
    · cases hstored
    · exact .inl hstored
  | invalidateCollection user collection =>
    have hstored : (cache.evict [⟨user, collection⟩]).store.get? text = some payload := hpayload
    rw [Cache.get?_evict] at hstored
    split at hstored
    · cases hstored
    · exact .inl hstored

/-! ## Runs -/

theorem worldAfter_append (limits : Limits) (world : World) (before after : List Step) :
    worldAfter limits world (before ++ after) =
      worldAfter limits (worldAfter limits world before) after :=
  List.foldl_append

theorem worldAfter_concat (limits : Limits) (world : World) (before : List Step) (last : Step) :
    worldAfter limits world (before ++ [last]) =
      (step limits (worldAfter limits world before) last).2 := by
  rw [worldAfter_append]
  rfl

/-- Nobody but the service puts payloads into the cache during the run. -/
def StoresAlone (steps : List Step) : Prop :=
  ∀ key payload, .change (.payload key payload) ∉ steps

theorem StoresAlone.of_append {before after : List Step} (halone : StoresAlone (before ++ after)) :
    StoresAlone before :=
  fun key payload hmem => halone key payload (List.mem_append_left _ hmem)

/-- A payload after a step that stores nothing from outside was there or was written by it. -/
theorem get?_step {world : World} {next : Step} {text payload : String}
    (halone : ∀ key payload, next ≠ .change (.payload key payload))
    (hpayload : (step limits world next).2.cache.store.get? text = some payload) :
    world.cache.store.get? text = some payload ∨
      ∃ key recommendation, next = .request (.forCollection key.user key.collection) ∧
        text = key.text ∧
        Writes limits world.repository world.cache key recommendation payload := by
  cases next with
  | request request =>
    obtain hold | ⟨key, recommendation, hrequest, htext, hwrites⟩ :=
      get?_perform hpayload
    · exact .inl hold
    · exact .inr ⟨key, recommendation, congrArg Step.request hrequest, htext, hwrites⟩
  | change change =>
    cases change with
    | tables tables => exact .inl hpayload
    | outages outages => exact .inl hpayload
    | cacheOutages failing => exact .inl hpayload
    | payload key payload => exact absurd rfl (halone key payload)

end MangaRecommender.Service
