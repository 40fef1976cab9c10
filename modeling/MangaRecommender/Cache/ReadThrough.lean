import MangaRecommender.Cache.Key
import MangaRecommender.Cache.Store

/-!
# Forgiving access to the cache

A cache that fails is a cache that holds nothing: a failed or unreadable read is a miss, and a
failed write or eviction is forgotten.
-/

namespace MangaRecommender.Cache

/-- The value under a key, if there is one that can be decoded. -/
def read {Value : Type} (decode : String → Option Value) (cache : Cache) (key : CacheKey) :
    Option Value :=
  match cache.get key.text with
  | .ok (some payload) => decode payload
  | .ok none | .error _ => none

def write (cache : Cache) (key : CacheKey) (payload : String) : Cache :=
  (cache.set key.text payload).2

/-- The calls that evict keys: none for no key, and one for any number of them. -/
def evictionCalls (keys : List CacheKey) : List CacheCall :=
  match keys with
  | [] => []
  | [key] => [.delete key.text]
  | keys => [.deleteMany (keys.map CacheKey.text)]

def evict (cache : Cache) (keys : List CacheKey) : Cache :=
  match keys with
  | [] => cache
  | [key] => (cache.delete key.text).2
  | keys => (cache.deleteMany (keys.map CacheKey.text)).2

end MangaRecommender.Cache
