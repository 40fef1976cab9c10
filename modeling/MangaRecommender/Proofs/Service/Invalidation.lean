import Mathlib
import MangaRecommender.Proofs.Service.Provenance
import MangaRecommender.Proofs.Service.Transparency

/-!
# What an invalidation evicts

An invalidation takes the payloads of its keys out of the store and touches no other, or it leaves
the cache as it was because its call fails.  Whether there are many keys, one or none decides which
call is made, and nothing else.  What was evicted stays out until the collection is asked for again,
so that the items of that request are generated.
-/

namespace MangaRecommender

theorem PayloadStore.erase_erase (store : PayloadStore) (first second : List String) :
    (store.erase first).erase second = store.erase (first ++ second) := by
  simp only [erase, List.filter_filter, List.contains_append, Bool.not_or, Bool.and_comm]

namespace Cache

/-- Deletes keys one after the other. -/
def deleteEach (cache : Cache) (keys : List CacheKey) : Cache :=
  keys.foldl (fun cache key => (cache.delete key.text).2) cache

theorem deleteEach_of_not_mem {cache : Cache} (hdelete : .delete ∉ cache.failing)
    (keys : List CacheKey) :
    cache.deleteEach keys = { cache with store := cache.store.erase (keys.map CacheKey.text) } := by
  induction keys generalizing cache with
  | nil =>
    rw [List.map_nil, PayloadStore.erase_nil]
    rfl
  | cons key rest ih =>
    have hfirst : (cache.delete key.text).2 =
        { cache with store := cache.store.erase [key.text] } := mutate_of_not_mem hdelete _
    calc cache.deleteEach (key :: rest)
        = (cache.delete key.text).2.deleteEach rest := rfl
      _ = { cache with store := (cache.store.erase [key.text]).erase (rest.map CacheKey.text) } := by
          rw [hfirst]
          exact ih hdelete
      _ = { cache with store := cache.store.erase ((key :: rest).map CacheKey.text) } := by
          rw [PayloadStore.erase_erase]
          rfl

end Cache

theorem CacheKey.mem_map_text_iff {key : CacheKey} {keys : List CacheKey} :
    key.text ∈ keys.map text ↔ key ∈ keys :=
  List.mem_map_of_injective fun _ _ => text_injective

namespace Service

/-! ## After an eviction -/

/-- The answer for a collection is what the generator finds, items and summary or a failure, and no
payload has a part in it. -/
structure Generates (limits : Limits) (repository : Repository) (key : CacheKey)
    (reply : Reply Served) : Prop where
  answer : reply.answer =
    (Generator.forCollection repository limits key.user key.collection).result.map fun
      recommendation => { items := recommendation.items, seeds := some recommendation.seeds }
  lookups : reply.lookups = .owns key.user key.collection ::
    (Generator.forCollection repository limits key.user key.collection).lookups

/-- A step that can bring a payload under the key: the collection is asked for, or somebody else
stores the payload. -/
inductive Fills (key : CacheKey) : Step → Prop
  | request : Fills key (.request (.forCollection key.user key.collection))
  | payload (payload : String) : Fills key (.change (.payload key.text payload))

variable {limits : Limits} {repository : Repository} {cache : Cache} {key : CacheKey}

theorem generates_of_absent (howns : repository.owns key.user key.collection = .ok true)
    (habsent : cache.store.get? key.text = none) :
    Generates limits repository key
      (forCollection limits repository cache key.user key.collection) := by
  have hmissed : ∀ items, ¬cache.Holds key items := by
    rintro items ⟨-, payload, hpayload, -⟩
    cases habsent.symm.trans hpayload
  obtain ⟨hanswer, hlookups, -⟩ := (hidesCache_of_missed howns hmissed).missed howns hmissed
  exact ⟨hanswer, hlookups⟩

/-- Other steps, whoever makes them and whatever fails, leave an absent payload absent. -/
theorem get?_step_of_not_fills {world : World} {next : Step}
    (habsent : world.cache.store.get? key.text = none) (hfills : ¬Fills key next) :
    (step limits world next).2.cache.store.get? key.text = none := by
  cases next with
  | request request =>
    rw [Option.eq_none_iff_forall_ne_some]
    intro payload hpayload
    obtain hold | ⟨writer, recommendation, rfl, htext, -⟩ := get?_perform hpayload
    · cases habsent.symm.trans hold
    · obtain rfl := CacheKey.text_injective htext
      exact hfills .request
  | change change =>
    cases change with
    | tables tables => exact habsent
    | outages outages => exact habsent
    | cacheOutages failing => exact habsent
    | payload text payload =>
      have htext : key.text ≠ text := by
        rintro rfl
        exact hfills (.payload payload)
      exact (PayloadStore.get?_insert _ _ _ _).trans ((if_neg htext).trans habsent)

theorem get?_worldAfter_of_not_fills {world : World} {steps : List Step}
    (habsent : world.cache.store.get? key.text = none) (hfills : ∀ next ∈ steps, ¬Fills key next) :
    (worldAfter limits world steps).cache.store.get? key.text = none := by
  induction steps generalizing world with
  | nil => exact habsent
  | cons next rest ih =>
    exact ih (get?_step_of_not_fills habsent (hfills next List.mem_cons_self))
      fun later hmem => hfills later (List.mem_cons_of_mem _ hmem)

/-! ## Invalidations -/

/-- A reply to a request that evicts keys from a cache, of which the keys are taken out and nothing
else. -/
structure Evicts (cache : Cache) (keys : List CacheKey) (reply : Reply Unit) : Prop where
  answer : reply.answer = .ok ()
  noKey : keys = [] → reply.cacheCalls = []
  oneKey : ∀ key, keys = [key] → reply.cacheCalls = [.delete key.text]
  moreKeys : 2 ≤ keys.length → reply.cacheCalls = [.deleteMany (keys.map CacheKey.text)]
  failed : ¬cache.Succeeds reply.cacheCalls → reply.cache = cache
  succeeded : cache.Succeeds reply.cacheCalls →
    reply.cache = { cache with store := cache.store.erase (keys.map CacheKey.text) }
  /-- Of all keys, those that are evicted have no payload left and all others have theirs. -/
  payloads : cache.Succeeds reply.cacheCalls → ∀ key : CacheKey,
    reply.cache.store.get? key.text = if key ∈ keys then none else cache.store.get? key.text
  /-- Texts that are no keys are left alone, too. -/
  others : ∀ text, text ∉ keys.map CacheKey.text →
    reply.cache.store.get? text = cache.store.get? text
  /-- The effect is that of deleting the keys one by one. -/
  eq_deleteEach : cache.Succeeds reply.cacheCalls → .delete ∉ cache.failing →
    reply.cache = cache.deleteEach keys
  /-- The effect is that of deleting all keys at once, be there one or none. -/
  eq_deleteMany : cache.Succeeds reply.cacheCalls → .deleteMany ∉ cache.failing →
    reply.cache = (cache.deleteMany (keys.map CacheKey.text)).2
  /-- Whatever happens before a collection is asked for the next time, its items are generated. -/
  generated : cache.Succeeds reply.cacheCalls → ∀ key ∈ keys, ∀ (limits : Limits) (world : World),
    world.cache = reply.cache → ∀ between : List Step, (∀ next ∈ between, ¬Fills key next) →
      ∀ repository : Repository, repository.owns key.user key.collection = .ok true →
        Generates limits repository key (forCollection limits repository
          (worldAfter limits world between).cache key.user key.collection)

theorem evicts_evict (cache : Cache) (keys : List CacheKey) (lookups : List Lookup) :
    Evicts cache keys ⟨.ok (), cache.evict keys, Cache.evictionCalls keys, lookups⟩ := by
  have hpayloads : cache.Succeeds (Cache.evictionCalls keys) → ∀ key : CacheKey,
      (cache.evict keys).store.get? key.text =
        if key ∈ keys then none else cache.store.get? key.text := by
    intro hsucceeds key
    simp only [Cache.get?_evict, hsucceeds, true_and, CacheKey.mem_map_text_iff]
  constructor
  case answer => rfl
  case noKey =>
    rintro rfl
    rfl
  case oneKey =>
    rintro key rfl
    rfl
  case moreKeys =>
    intro htwo
    match keys, htwo with
    | first :: second :: more, _ => rfl
  case failed => exact Cache.evict_of_not_succeeds
  case succeeded => exact Cache.evict_of_succeeds
  case payloads => exact hpayloads
  case others =>
    intro text htext
    rw [Cache.get?_evict, if_neg fun hevicted => htext hevicted.2]
  case eq_deleteEach =>
    intro hsucceeds hdelete
    rw [Cache.evict_of_succeeds hsucceeds, Cache.deleteEach_of_not_mem hdelete]
  case eq_deleteMany =>
    intro hsucceeds hdeleteMany
    rw [Cache.evict_of_succeeds hsucceeds, Cache.deleteMany, Cache.mutate_of_not_mem hdeleteMany]
  case generated =>
    intro hsucceeds key hkey limits world hworld between hfills repository howns
    have habsent : world.cache.store.get? key.text = none := by
      rw [hworld, hpayloads hsucceeds key, if_pos hkey]
    exact generates_of_absent howns (get?_worldAfter_of_not_fills habsent hfills)

/-- An invalidation of a user fails only with the lookup of the user's collections, and then it
makes no cache call.  In every other case, and for a single collection always, exactly the keys
of these collections are evicted. -/
theorem invalidation_evicts_exactly (repository : Repository) (cache : Cache) (user : Uuid) :
    (∀ failure, (invalidateUser repository cache user).answer = .error failure ↔
      repository.userCollections user = .error failure) ∧
    (∀ failure, repository.userCollections user = .error failure →
      (invalidateUser repository cache user).cacheCalls = [] ∧
        (invalidateUser repository cache user).cache = cache) ∧
    (∀ collections, repository.userCollections user = .ok collections →
      Evicts cache (collections.map (CacheKey.mk user)) (invalidateUser repository cache user)) ∧
    ∀ collection, Evicts cache [⟨user, collection⟩] (invalidateCollection cache user collection) := by
  cases hcollections : repository.userCollections user with
  | error failure =>
    rw [invalidateUser_of_error repository cache hcollections]
    exact ⟨fun other => by simp, fun _ _ => ⟨rfl, rfl⟩, nofun,
      fun collection => evicts_evict cache _ _⟩
  | ok collections =>
    rw [invalidateUser_of_ok repository cache hcollections]
    refine ⟨fun other => by simp, nofun, ?_, fun collection => evicts_evict cache _ _⟩
    intro listed hlisted
    obtain rfl : collections = listed := Except.ok.inj hlisted
    exact evicts_evict cache _ _

def neighbour : Uuid := ⟨9, by decide⟩

/-- The reader has one collection under two rows and another one that is not cached. -/
def listedTwice : Tables where
  manga := []
  links _ := []
  collections := [⟨10, reader, [1]⟩, ⟨10, neighbour, []⟩, ⟨11, reader, []⟩, ⟨10, reader, []⟩]
  fixedCandidates := none

/-- Payloads of a listed collection of the reader, of one that is gone, and of a neighbour. -/
def threePayloads : Cache where
  store := ⟨[(CacheKey.text ⟨reader, 10⟩, "[]"), (CacheKey.text ⟨reader, 12⟩, "[]"),
    (CacheKey.text ⟨neighbour, 10⟩, "[]")]⟩
  failing := [.delete, .set]

theorem invalidation_evicts_exactly_listedTwice :
    let store := listedTwice.repository .none
    let reply := invalidateUser store threePayloads reader
    store.userCollections reader = .ok [10, 11, 10] ∧
      threePayloads.Succeeds reply.cacheCalls ∧
      (∀ key ∈ [CacheKey.mk reader 12, CacheKey.mk neighbour 10],
        reply.cache.store.get? key.text = some "[]") ∧
      Generates ⟨5, 5⟩ store ⟨reader, 10⟩
        (forCollection ⟨5, 5⟩ store reply.cache reader 10) := by
  intro store reply
  have hlisted : store.userCollections reader = .ok [10, 11, 10] := by decide
  have hsucceeds : threePayloads.Succeeds reply.cacheCalls := by decide +kernel
  have hevicts := (invalidation_evicts_exactly store threePayloads reader).2.2.1 _ hlisted
  refine ⟨hlisted, hsucceeds, fun key hkey => ?_, ?_⟩
  · have hspared : key ∉ [10, 11, 10].map (CacheKey.mk reader) := by
      revert key
      decide
    rw [hevicts.payloads hsucceeds, if_neg hspared]
    revert key
    decide +kernel
  · exact hevicts.generated hsucceeds ⟨reader, 10⟩ (by decide) ⟨5, 5⟩
      ⟨listedTwice, .none, reply.cache⟩ rfl [] (by simp) store (by decide)

end Service

end MangaRecommender
