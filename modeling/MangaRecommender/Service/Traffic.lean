import MangaRecommender.Cache.Writer
import MangaRecommender.Service.Run

/-!
# Requests at the same time

Any number of requests are under way at once, and each of them pauses between its calls: once the
owner is checked, once the cache is read, once the items are generated, and while its deletion
waits for the writer of the cache.  Whatever else happens, be it another request, a turn of the
writer or a change of the tables, falls into these pauses.
-/

namespace MangaRecommender.Service

/-- How far a request has come. -/
inductive Stage
  | unasked
  | asked (request : Request)
  | owned (key : CacheKey)
  | missed (key : CacheKey)
  | generated (key : CacheKey) (recommendation : Recommendation)
  | evicting (keys : List CacheKey)
  /-- The deletion was issued, and its ticket has not been replied to. -/
  | awaiting (ticket : Nat)
  | answered (answer : Except Failure Answer)

namespace Stage

/-- The items of a payload that a cache answers with; failures and unreadable payloads are none. -/
def itemsOf : Except Failure (Option String) → Option (List ScoredManga)
  | .ok (some payload) => ScoredManga.decodeList? payload
  | .ok none | .error _ => none

/-- The next call of a request: what it asks of the cache, and how far the request has come then.
A failure to delete is forgotten, like one to read or to write. -/
def advance (limits : Limits) (repository : Repository) (writer : CacheWriter) :
    Stage → List CacheWriter.Event × Stage
  | unasked => ([], unasked)
  | asked (.forCollection user collection) =>
    match repository.owns user collection with
    | .error failure => ([], answered (.error failure))
    | .ok false => ([], answered (.error .collectionNotFound))
    | .ok true => ([], owned ⟨user, collection⟩)
  | asked (.forList ids) =>
    ([], answered (((Generator.forList repository limits ids).result.map served).map .served))
  | asked (.invalidateUser user) =>
    match repository.userCollections user with
    | .error failure => ([], answered (.error failure))
    | .ok collections => ([], evicting (collections.map (CacheKey.mk user)))
  | asked (.invalidateCollection user collection) => ([], evicting [⟨user, collection⟩])
  | owned key =>
    match itemsOf (writer.get key.text).1 with
    | some items => ([.get key.text], answered (.ok (.served ⟨items, none⟩)))
    | none => ([.get key.text], missed key)
  | missed key =>
    match (Generator.forCollection repository limits key.user key.collection).result with
    | .error failure => ([], answered (.error failure))
    | .ok recommendation => ([], generated key recommendation)
  | generated key recommendation =>
    ([.set key.text (ScoredManga.encodeList recommendation.items)],
      answered (.ok (.served (served recommendation))))
  | evicting [] => ([], answered (.ok .evicted))
  | evicting (key :: keys) =>
    ([.delete ((key :: keys).map CacheKey.text)], awaiting writer.tickets)
  | awaiting ticket =>
    match writer.reply? ticket with
    | none => ([], awaiting ticket)
    | some _ => ([], answered (.ok .evicted))
  | answered answer => ([], answered answer)

end Stage

/-- A service with all its requests, which are told apart by numbers, and what it works with. -/
structure Traffic where
  tables : Tables
  outages : Outages
  writer : CacheWriter
  stages : Nat → Stage

/-- What can happen next. -/
inductive Happening
  | ask (caller : Nat) (request : Request)
  | advance (caller : Nat)
  /-- The two halves of a turn of the writer. -/
  | begin
  | finish
  | tables (tables : Tables)
  | outages (outages : Outages)

namespace Traffic

/-- Nothing was asked yet; the cache holds any payloads, and its calls succeed. -/
def start (tables : Tables) (store : PayloadStore) : Traffic :=
  ⟨tables, .none, .ofServer ⟨true, false, store, []⟩, fun _ => .unasked⟩

def repository (traffic : Traffic) : Repository := traffic.tables.repository traffic.outages

def withStage (traffic : Traffic) (caller : Nat) (stage : Stage) : Traffic :=
  { traffic with stages := fun other => if other = caller then stage else traffic.stages other }

/-- What happens to the writer. -/
def eventsOf (limits : Limits) (traffic : Traffic) : Happening → List CacheWriter.Event
  | .advance caller =>
    ((traffic.stages caller).advance limits traffic.repository traffic.writer).1
  | .begin => [.begin]
  | .finish => [.finish]
  | .ask _ _ | .tables _ | .outages _ => []

def next (limits : Limits) (traffic : Traffic) (happening : Happening) : Traffic :=
  let writer := (traffic.eventsOf limits happening).foldl CacheWriter.step traffic.writer
  match happening with
  | .ask caller request =>
    match traffic.stages caller with
    | .unasked => traffic.withStage caller (.asked request)
    | _ => traffic
  | .advance caller =>
    { traffic with writer }.withStage caller
      ((traffic.stages caller).advance limits traffic.repository traffic.writer).2
  | .begin | .finish => { traffic with writer }
  | .tables tables => { traffic with tables }
  | .outages outages => { traffic with outages }

def after (limits : Limits) (traffic : Traffic) (happenings : List Happening) : Traffic :=
  happenings.foldl (next limits) traffic

end Traffic

end MangaRecommender.Service
