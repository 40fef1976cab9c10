import MangaRecommender.Cache.ReadThrough
import MangaRecommender.Document.ScoredManga
import MangaRecommender.Generator

/-!
# Serving recommendations

Recommendations for a collection are read through the cache. The owner is checked first, so that
a foreign collection is never found, cached or not. Only the items are kept, so that a hit knows
nothing of the seeds. A change of a user's ratings or of a collection evicts what it may have
changed.
-/

namespace MangaRecommender

/-- Items for a caller, with the summary of the seeds if they were generated just now. -/
structure Served where
  items : List ScoredManga
  seeds : Option SeedSummary
  deriving DecidableEq

/-- The answer of a request, the cache after it, and the calls that it made. -/
structure Reply (Value : Type) where
  answer : Except Failure Value
  cache : Cache
  cacheCalls : List CacheCall
  lookups : List Lookup

namespace Service

def served (recommendation : Recommendation) : Served :=
  ⟨recommendation.items, some recommendation.seeds⟩

/-- The items that a cache holds for a key. -/
def cached (cache : Cache) (key : CacheKey) : Option (List ScoredManga) :=
  cache.read ScoredManga.decodeList? key

/-- The cache after the items of a key were written. -/
def remember (cache : Cache) (key : CacheKey) (items : List ScoredManga) : Cache :=
  cache.write key (ScoredManga.encodeList items)

/-- Generates the recommendations of a collection that is not cached. -/
def generate (limits : Limits) (repository : Repository) (cache : Cache) (key : CacheKey) :
    Reply Served :=
  let run := Generator.forCollection repository limits key.user key.collection
  match run.result with
  | .error failure => ⟨.error failure, cache, [], run.lookups⟩
  | .ok recommendation =>
    ⟨.ok (served recommendation), remember cache key recommendation.items,
      [.set key.text (ScoredManga.encodeList recommendation.items)], run.lookups⟩

/-- Recommendations for a collection of a user. -/
def forCollection (limits : Limits) (repository : Repository) (cache : Cache) (user : Uuid)
    (collection : Int32) : Reply Served :=
  let key : CacheKey := ⟨user, collection⟩
  let ownership := repository.lookUpOwner user collection
  match ownership.result with
  | .error failure => ⟨.error failure, cache, [], ownership.lookups⟩
  | .ok false => ⟨.error .collectionNotFound, cache, [], ownership.lookups⟩
  | .ok true =>
    match cached cache key with
    | some items => ⟨.ok ⟨items, none⟩, cache, [.get key.text], ownership.lookups⟩
    | none =>
      let reply := generate limits repository cache key
      { reply with
        cacheCalls := .get key.text :: reply.cacheCalls
        lookups := ownership.lookups ++ reply.lookups }

/-- Recommendations for a list of ids, which are never cached. -/
def forList (limits : Limits) (repository : Repository) (cache : Cache) (ids : List Int32) :
    Reply Served :=
  let run := Generator.forList repository limits ids
  ⟨run.result.map served, cache, [], run.lookups⟩

/-- Evicts all collections of a user. -/
def invalidateUser (repository : Repository) (cache : Cache) (user : Uuid) : Reply Unit :=
  let owned := repository.lookUpUserCollections user
  match owned.result with
  | .error failure => ⟨.error failure, cache, [], owned.lookups⟩
  | .ok collections =>
    let keys := collections.map fun collection => CacheKey.mk user collection
    ⟨.ok (), cache.evict keys, Cache.evictionCalls keys, owned.lookups⟩

/-- Evicts one collection of a user. -/
def invalidateCollection (cache : Cache) (user : Uuid) (collection : Int32) : Reply Unit :=
  let keys : List CacheKey := [⟨user, collection⟩]
  ⟨.ok (), cache.evict keys, Cache.evictionCalls keys, []⟩

end Service

end MangaRecommender
