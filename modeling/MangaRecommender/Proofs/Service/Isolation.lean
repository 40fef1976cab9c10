import Mathlib
import MangaRecommender.Proofs.Service.Provenance

/-!
# Users do not notice each other

Two runs look alike to a user if they differ only in the collections of others and in requests of
others or of nobody.  All users share one cache, but no two of them share a key, so the payloads of
the user stay the same in both runs while the rest of the stores drifts apart.  Every request of
the user then has the same answer and makes the same calls of the cache and the same lookups.
-/

namespace MangaRecommender

/-! ## Agreement for one user -/

/-- Tables that differ only in collections of other users. -/
structure Tables.AgreesFor (user : Uuid) (left right : Tables) : Prop where
  manga : left.manga = right.manga
  links : left.links = right.links
  fixedCandidates : left.fixedCandidates = right.fixedCandidates
  collections : left.collections.filter (fun row => row.owner == user) =
    right.collections.filter fun row => row.owner == user

/-- Repositories with one catalogue and with the same answers about the collections of a user. -/
structure Repository.AgreesFor (user : Uuid) (left right : Repository) : Prop where
  links : left.links = right.links
  ratings : left.ratings = right.ratings
  dates : left.dates = right.dates
  candidates : left.candidates = right.candidates
  owns : left.owns user = right.owns user
  collectionManga : left.collectionManga user = right.collectionManga user
  userCollections : left.userCollections user = right.userCollections user

/-- Caches that fail alike and hold the same payloads under the keys of a user. -/
structure Cache.AgreesFor (user : Uuid) (left right : Cache) : Prop where
  failing : left.failing = right.failing
  payloads : ∀ collection, left.store.get? (CacheKey.text ⟨user, collection⟩) =
    right.store.get? (CacheKey.text ⟨user, collection⟩)

structure World.AgreesFor (user : Uuid) (left right : World) : Prop where
  tables : left.tables.AgreesFor user right.tables
  outages : left.outages = right.outages
  cache : left.cache.AgreesFor user right.cache

variable {user : Uuid}

namespace Tables

theorem AgreesFor.refl (tables : Tables) : tables.AgreesFor user tables := ⟨rfl, rfl, rfl, rfl⟩

variable {left right : Tables} (hagree : left.AgreesFor user right)

theorem ownsCollection_eq (tables : Tables) (collection : Int32) :
    tables.ownsCollection user collection =
      (tables.collections.filter fun row => row.owner == user).any fun row =>
        row.id == collection := by
  rw [ownsCollection, List.any_filter]
  exact congrArg tables.collections.any (funext fun row => Bool.and_comm _ _)

theorem find?_collection (tables : Tables) (collection : Int32) :
    (tables.collections.find? fun row => row.id == collection && row.owner == user) =
      (tables.collections.filter fun row => row.owner == user).find? fun row =>
        row.id == collection := by
  rw [List.find?_filter]
  congr 1
  funext row
  rw [Bool.and_comm, Bool.decide_and, Bool.decide_eq_true, Bool.decide_eq_true]

include hagree

theorem AgreesFor.repository (outages : Outages) :
    (left.repository outages).AgreesFor user (right.repository outages) := by
  obtain ⟨hmanga, hlinks, hfixed, hcollections⟩ := hagree
  have hqualifies : left.qualifies = right.qualifies := by
    funext query row
    simp only [qualifies, isLinked, hlinks]
  have hcandidates : left.candidates = right.candidates := by
    funext query
    simp only [candidates, hqualifies, hfixed, hmanga]
  constructor
  · simp only [Tables.repository, hlinks]
  · simp only [Tables.repository, hmanga]
  · simp only [Tables.repository, hmanga]
  · simp only [Tables.repository, hcandidates]
  · funext collection
    simp only [Tables.repository, ownsCollection_eq, hcollections]
  · funext collection
    simp only [Tables.repository, collectionManga, find?_collection, hcollections]
  · simp only [Tables.repository, userCollections, hcollections]

end Tables

namespace Cache.AgreesFor

variable {left middle right : Cache}

theorem refl (cache : Cache) : cache.AgreesFor user cache := ⟨rfl, fun _ => rfl⟩

theorem symm (hagree : left.AgreesFor user right) : right.AgreesFor user left :=
  ⟨hagree.failing.symm, fun collection => (hagree.payloads collection).symm⟩

theorem trans (hleft : left.AgreesFor user middle) (hright : middle.AgreesFor user right) :
    left.AgreesFor user right :=
  ⟨hleft.failing.trans hright.failing, fun collection =>
    (hleft.payloads collection).trans (hright.payloads collection)⟩

theorem write (hagree : left.AgreesFor user right) (key : CacheKey) (payload : String) :
    (left.write key payload).AgreesFor user (right.write key payload) := by
  constructor
  · rw [failing_write, failing_write, hagree.failing]
  · intro collection
    rw [get?_write, get?_write, hagree.failing, hagree.payloads]

theorem evict (hagree : left.AgreesFor user right) (keys : List CacheKey) :
    (left.evict keys).AgreesFor user (right.evict keys) := by
  constructor
  · rw [failing_evict, failing_evict, hagree.failing]
  · intro collection
    have hsucceeds : left.Succeeds (evictionCalls keys) ↔ right.Succeeds (evictionCalls keys) := by
      simp only [Succeeds, hagree.failing]
    rw [get?_evict, get?_evict]
    exact if_congr (and_congr_left' hsucceeds) rfl (hagree.payloads collection)

/-- What is written under a key of another user goes unnoticed. -/
theorem write_foreign (cache : Cache) {key : CacheKey} (hforeign : key.user ≠ user)
    (payload : String) : (cache.write key payload).AgreesFor user cache := by
  constructor
  · exact failing_write cache key payload
  · intro collection
    rw [get?_write, if_neg]
    rintro ⟨-, htext⟩
    exact hforeign (congrArg CacheKey.user (CacheKey.text_injective htext)).symm

theorem evict_foreign (cache : Cache) {keys : List CacheKey}
    (hforeign : ∀ key ∈ keys, key.user ≠ user) : (cache.evict keys).AgreesFor user cache := by
  constructor
  · exact failing_evict cache keys
  · intro collection
    rw [get?_evict, if_neg]
    rintro ⟨-, hmem⟩
    obtain ⟨key, hkey, htext⟩ := List.mem_map.1 hmem
    exact hforeign key hkey (congrArg CacheKey.user (CacheKey.text_injective htext))

end Cache.AgreesFor

namespace World.AgreesFor

variable {left right : World}

theorem repository (hagree : left.AgreesFor user right) :
    left.repository.AgreesFor user right.repository := by
  rw [World.repository, World.repository, hagree.outages]
  exact hagree.tables.repository right.outages

/-- The same change of both worlds keeps their agreement. -/
theorem change (hagree : left.AgreesFor user right) (change : Change) :
    (left.change change).AgreesFor user (right.change change) := by
  obtain ⟨htables, houtages, hfailing, hpayloads⟩ := hagree
  cases change with
  | tables tables => exact ⟨.refl tables, houtages, hfailing, hpayloads⟩
  | outages outages => exact ⟨htables, rfl, hfailing, hpayloads⟩
  | cacheOutages failing => exact ⟨htables, houtages, rfl, hpayloads⟩
  | payload key payload =>
    refine ⟨htables, houtages, hfailing, fun collection => ?_⟩
    simp only [World.change, PayloadStore.get?_insert, hpayloads]

end World.AgreesFor

/-! ## Requests -/

namespace Generator

variable {left right : Repository}

/-- A run asks the catalogue only. -/
theorem run_congr (hagree : left.AgreesFor user right) (limits : Limits) (seeds : Seeds) :
    run left limits seeds = run right limits seeds := by
  obtain ⟨hlinks, hratings, hdates, hcandidates, -, -, -⟩ := hagree
  cases left
  cases right
  cases hlinks
  cases hratings
  cases hdates
  cases hcandidates
  rfl

theorem forCollection_congr (hagree : left.AgreesFor user right) (limits : Limits)
    (collection : Int32) :
    forCollection left limits user collection = forCollection right limits user collection := by
  have hseeds : Seeds.ofCollection left limits.maxSeeds user collection =
      Seeds.ofCollection right limits.maxSeeds user collection := by
    rw [Seeds.ofCollection, Seeds.ofCollection, Repository.lookUpCollection,
      Repository.lookUpCollection, hagree.collectionManga]
  rw [forCollection, forCollection, hseeds]
  exact congrArg _ (funext (run_congr hagree limits))

end Generator

namespace Service

/-- Replies that their user cannot tell apart, and that leave agreeing caches. -/
structure RepliesAgree {Value : Type} (user : Uuid) (left right : Reply Value) : Prop where
  answer : left.answer = right.answer
  cacheCalls : left.cacheCalls = right.cacheCalls
  lookups : left.lookups = right.lookups
  cache : left.cache.AgreesFor user right.cache

theorem RepliesAgree.map {First Second : Type} {left right : Reply First}
    (hagree : RepliesAgree user left right) (transform : First → Second) :
    RepliesAgree user (left.map transform) (right.map transform) :=
  ⟨congrArg (Except.map transform) hagree.answer, hagree.cacheCalls, hagree.lookups, hagree.cache⟩

section Replies

variable {leftRepository rightRepository : Repository} {leftCache rightCache : Cache}
  (hrepository : leftRepository.AgreesFor user rightRepository)
  (hcache : leftCache.AgreesFor user rightCache) (limits : Limits)

include hrepository hcache

theorem generate_agree (collection : Int32) :
    RepliesAgree user (generate limits leftRepository leftCache ⟨user, collection⟩)
      (generate limits rightRepository rightCache ⟨user, collection⟩) := by
  simp only [generate, Generator.forCollection_congr hrepository]
  split
  · exact ⟨rfl, rfl, rfl, hcache⟩
  · exact ⟨rfl, rfl, rfl, hcache.write _ _⟩

theorem forCollection_agree (collection : Int32) :
    RepliesAgree user (forCollection limits leftRepository leftCache user collection)
      (forCollection limits rightRepository rightCache user collection) := by
  have hcached : cached leftCache ⟨user, collection⟩ = cached rightCache ⟨user, collection⟩ :=
    Cache.read_congr hcache.failing (hcache.payloads collection)
  have hgenerated := generate_agree hrepository hcache limits collection
  simp only [forCollection, Repository.lookUpOwner, hrepository.owns, hcached]
  split
  · exact ⟨rfl, rfl, rfl, hcache⟩
  · exact ⟨rfl, rfl, rfl, hcache⟩
  · split
    · exact ⟨rfl, rfl, rfl, hcache⟩
    · exact ⟨hgenerated.answer, congrArg (CacheCall.get _ :: ·) hgenerated.cacheCalls,
        congrArg ([Lookup.owns user collection] ++ ·) hgenerated.lookups, hgenerated.cache⟩

theorem invalidateUser_agree :
    RepliesAgree user (invalidateUser leftRepository leftCache user)
      (invalidateUser rightRepository rightCache user) := by
  simp only [invalidateUser, Repository.lookUpUserCollections, hrepository.userCollections]
  split
  · exact ⟨rfl, rfl, rfl, hcache⟩
  · exact ⟨rfl, rfl, rfl, hcache.evict _⟩

end Replies

/-- The user that a request is made for; a list of ids is looked up for nobody. -/
def Request.user? : Request → Option Uuid
  | .forCollection user _ | .invalidateUser user | .invalidateCollection user _ => some user
  | .forList _ => none

variable (limits : Limits) {left right : World}

/-- Agreeing worlds treat a request of the user alike. -/
theorem perform_agree (hagree : left.AgreesFor user right) {request : Request}
    (hown : request.user? = some user) :
    RepliesAgree user (perform limits left.repository left.cache request)
      (perform limits right.repository right.cache request) := by
  cases request with
  | forCollection owner collection =>
    cases hown
    exact (forCollection_agree hagree.repository hagree.cache limits collection).map _
  | forList ids => cases hown
  | invalidateUser owner =>
    cases hown
    exact (invalidateUser_agree hagree.repository hagree.cache).map _
  | invalidateCollection owner collection =>
    cases hown
    exact ⟨rfl, rfl, rfl, hagree.cache.evict [⟨user, collection⟩]⟩

/-- A request that is not the user's leaves the user's payloads alone. -/
theorem perform_foreign (repository : Repository) (cache : Cache) {request : Request}
    (hforeign : request.user? ≠ some user) :
    (perform limits repository cache request).cache.AgreesFor user cache := by
  cases request with
  | forCollection owner collection =>
    have hother : owner ≠ user := fun heq => hforeign (congrArg some heq)
    show (forCollection limits repository cache owner collection).cache.AgreesFor user cache
    cases forCollection_outcome limits repository cache owner collection with
    | refused failure hanswer hcache =>
      rw [hcache]
      exact .refl cache
    | hit items howns hcached hanswer hcache =>
      rw [hcache]
      exact .refl cache
    | generated recommendation howns hrun hanswer hcache =>
      rw [hcache]
      exact .write_foreign cache hother _
  | forList ids => exact .refl cache
  | invalidateUser owner =>
    have hother : owner ≠ user := fun heq => hforeign (congrArg some heq)
    obtain ⟨collections, hcache⟩ := cache_invalidateUser repository cache owner
    show (invalidateUser repository cache owner).cache.AgreesFor user cache
    rw [hcache]
    apply Cache.AgreesFor.evict_foreign
    intro key hkey
    obtain ⟨collection, -, rfl⟩ := List.mem_map.1 hkey
    exact hother
  | invalidateCollection owner collection =>
    have hother : owner ≠ user := fun heq => hforeign (congrArg some heq)
    show (cache.evict [⟨owner, collection⟩]).AgreesFor user cache
    apply Cache.AgreesFor.evict_foreign
    intro key hkey
    obtain rfl := List.mem_singleton.1 hkey
    exact hother

/-! ## Runs -/

/-- The second run is the first one without some requests that are not the user's, and with other
collections of other users. -/
inductive LooksAlike (user : Uuid) : List Step → List Step → Prop
  | nil : LooksAlike user [] []
  | keep (next : Step) {first second : List Step} (hrest : LooksAlike user first second) :
      LooksAlike user (next :: first) (next :: second)
  | tables {left right : Tables} (hagree : left.AgreesFor user right) {first second : List Step}
      (hrest : LooksAlike user first second) :
      LooksAlike user (.change (.tables left) :: first) (.change (.tables right) :: second)
  | drop {request : Request} (hforeign : request.user? ≠ some user) {first second : List Step}
      (hrest : LooksAlike user first second) :
      LooksAlike user (.request request :: first) second

/-- What is seen of a reply: its answer, the calls of the cache and the lookups, among them the
query for candidates. -/
structure Observation where
  answer : Except Failure Answer
  cacheCalls : List CacheCall
  lookups : List Lookup

def Observation.ofReply (reply : Reply Answer) : Observation :=
  ⟨reply.answer, reply.cacheCalls, reply.lookups⟩

/-- What a user sees of a step: the reply to a request of the user's own. -/
def observed? (user : Uuid) : Step → Option (Reply Answer) → Option Observation
  | .request request, some reply =>
    if request.user? = some user then some (.ofReply reply) else none
  | _, _ => none

/-- What a user sees of a run, request by request. -/
def observations (limits : Limits) (user : Uuid) (world : World) (steps : List Step) :
    List Observation :=
  (steps.zip (replies limits world steps)).filterMap fun (next, reply) => observed? user next reply

theorem observations_cons (limits : Limits) (user : Uuid) (world : World) (next : Step)
    (rest : List Step) :
    observations limits user world (next :: rest) =
      (observed? user next (step limits world next).1).toList ++
        observations limits user (step limits world next).2 rest := by
  cases hobserved : observed? user next (step limits world next).1 with
  | none => simp [observations, replies, hobserved]
  | some observation => simp [observations, replies, hobserved]

/-- One step that both runs take shows the user the same and keeps the worlds agreeing. -/
theorem step_agree (hagree : left.AgreesFor user right) (next : Step) :
    observed? user next (step limits left next).1 =
        observed? user next (step limits right next).1 ∧
      (step limits left next).2.AgreesFor user (step limits right next).2 := by
  cases next with
  | change change => exact ⟨rfl, hagree.change change⟩
  | request request =>
    by_cases hown : request.user? = some user
    · have hreplies := perform_agree limits hagree hown
      refine ⟨?_, hagree.tables, hagree.outages, hreplies.cache⟩
      simp only [step, observed?, Observation.ofReply, hreplies.answer, hreplies.cacheCalls,
        hreplies.lookups]
    · refine ⟨?_, hagree.tables, hagree.outages, ?_⟩
      · simp only [step, observed?, if_neg hown]
      · exact ((perform_foreign limits left.repository left.cache hown).trans hagree.cache).trans
          (perform_foreign limits right.repository right.cache hown).symm

/-- Two runs over one cache that differ only in the requests and the collections of others show a
user the same: every request of the user has the same answer, makes the same calls of the cache
and the same lookups. -/
theorem observations_eq_of_looksAlike (limits : Limits) (user : Uuid) (left right : World)
    (hagree : left.AgreesFor user right) (first second : List Step)
    (halike : LooksAlike user first second) :
    observations limits user left first = observations limits user right second := by
  induction halike generalizing left right with
  | nil => rfl
  | keep next hrest ih =>
    obtain ⟨hobserved, hnext⟩ := step_agree limits hagree next
    rw [observations_cons, observations_cons, hobserved, ih _ _ hnext]
  | tables htables hrest ih =>
    rw [observations_cons, observations_cons]
    exact congrArg _ (ih _ _ ⟨htables, hagree.outages, hagree.cache⟩)
  | drop hforeign hrest ih =>
    have hcache := perform_foreign limits left.repository left.cache hforeign
    rw [observations_cons, step, observed?, if_neg hforeign]
    exact ih _ _ ⟨hagree.tables, hagree.outages, hcache.trans hagree.cache⟩

/-! ## Two readers -/

def stranger : Uuid := ⟨8, by decide⟩

/-- The small catalogue with a collection of another user that has the same number. -/
def sharedNumber : Tables :=
  { twoManga with collections := ⟨10, stranger, [2]⟩ :: twoManga.collections }

theorem agreesFor_sharedNumber : sharedNumber.AgreesFor reader twoManga :=
  ⟨rfl, rfl, rfl, by decide⟩

/-- The stranger fills the cache and empties it again while the reader asks twice. -/
def crowded : List Step :=
  [.request (.forCollection stranger 10), .request (.forCollection reader 10),
    .request (.forList [1, 2]), .change (.tables sharedNumber), .request (.invalidateUser stranger),
    .request (.forCollection reader 10)]

def alone : List Step :=
  [.request (.forCollection reader 10), .change (.tables twoManga),
    .request (.forCollection reader 10)]

theorem looksAlike_crowded : LooksAlike reader crowded alone := by
  apply LooksAlike.drop (by decide)
  apply LooksAlike.keep
  apply LooksAlike.drop (by decide)
  apply LooksAlike.tables agreesFor_sharedNumber
  apply LooksAlike.drop (by decide)
  exact .keep _ .nil

theorem observations_eq_of_looksAlike_crowded :
    (World.ofTables sharedNumber).AgreesFor reader (.ofTables twoManga) ∧
      LooksAlike reader crowded alone ∧
      observations ⟨5, 5⟩ reader (.ofTables sharedNumber) crowded =
        observations ⟨5, 5⟩ reader (.ofTables twoManga) alone := by
  have hagree : (World.ofTables sharedNumber).AgreesFor reader (.ofTables twoManga) :=
    ⟨agreesFor_sharedNumber, rfl, .refl _⟩
  exact ⟨hagree, looksAlike_crowded,
    observations_eq_of_looksAlike ⟨5, 5⟩ reader _ _ hagree crowded alone looksAlike_crowded⟩

end Service

end MangaRecommender
