import MangaRecommender.Cache.Store
import MangaRecommender.Catalogue.Tables

/-!
# The world around a service

What a service finds and does not decide: the tables behind its repository, the calls that fail,
and the cache. All of it may change between two requests.
-/

namespace MangaRecommender

structure World where
  tables : Tables
  outages : Outages
  cache : Cache

/-- A change that no request makes. -/
inductive Change
  | tables (tables : Tables)
  | outages (outages : Outages)
  | cacheOutages (failing : List CacheOperation)
  /-- A payload that somebody else puts into the cache. -/
  | payload (key payload : String)

namespace World

/-- A world in which every call succeeds and nothing is cached. -/
def ofTables (tables : Tables) : World := ⟨tables, .none, .empty⟩

def repository (world : World) : Repository := world.tables.repository world.outages

def change (world : World) : Change → World
  | .tables tables => { world with tables }
  | .outages outages => { world with outages }
  | .cacheOutages failing => { world with cache := { world.cache with failing } }
  | .payload key payload =>
    { world with cache := { world.cache with store := world.cache.store.insert key payload } }

end World

end MangaRecommender
