import Mathlib
import MangaRecommender.Proofs.Service.Replies

/-!
# A broken cache goes unnoticed

A cache can hold anything and fail at any call.  What it holds matters only where it can be read
and decodes as a list of items; then these items are the answer, and nothing is generated.  In every
other case a caller gets what there would be without a cache, its failures included, and a failure
of the cache is none of them.
-/

namespace MangaRecommender

namespace Cache

variable {cache : Cache} {key : CacheKey}

/-- The cache can be read, and what it has under the key decodes as these items. -/
def Holds (cache : Cache) (key : CacheKey) (items : List ScoredManga) : Prop :=
  .get ∉ cache.failing ∧
    ∃ payload, cache.store.get? key.text = some payload ∧
      ScoredManga.decodeList? payload = some items

/-- The cache after a call, which may fail. -/
def carryOut (cache : Cache) : CacheCall → Cache
  | .get _ => cache
  | .set key payload => (cache.set key payload).2
  | .delete key => (cache.delete key).2
  | .deleteMany keys => (cache.deleteMany keys).2

end Cache

namespace Service

theorem cached_eq_some_iff {cache : Cache} {key : CacheKey} {items : List ScoredManga} :
    cached cache key = some items ↔ cache.Holds key items := Cache.read_eq_some_iff

theorem cached_eq_none_iff {cache : Cache} {key : CacheKey} :
    cached cache key = none ↔ ∀ items, ¬cache.Holds key items := by
  simp only [Option.eq_none_iff_forall_ne_some, ne_eq, cached_eq_some_iff]

/-- A request is refused before the cache is asked: nobody knows whether its user owns the
collection, or the user does not. -/
def Refuses (repository : Repository) (key : CacheKey) (failure : Failure) : Prop :=
  repository.owns key.user key.collection = .error failure ∨
    repository.owns key.user key.collection = .ok false ∧
      failure = .notFound "Collection not found."

/-- How little a reply for a collection shows of the cache that it was made with. -/
structure HidesCache (limits : Limits) (repository : Repository) (cache : Cache) (key : CacheKey)
    (reply : Reply Served) : Prop where
  /-- Without the owner's consent the cache is not touched. -/
  refused : ∀ failure, Refuses repository key failure →
    reply = ⟨.error failure, cache, [], [.owns key.user key.collection]⟩
  /-- Items that the cache holds are the answer, and there are no further lookups. -/
  hit : repository.owns key.user key.collection = .ok true →
    ∀ items, cache.Holds key items →
      reply = ⟨.ok ⟨items, none⟩, cache, [.get key.text], [.owns key.user key.collection]⟩
  /-- Otherwise the answer is what is generated, items and summary or a failure, and the items are
  offered to the cache. -/
  missed : repository.owns key.user key.collection = .ok true →
    (∀ items, ¬cache.Holds key items) →
      let run := Generator.forCollection repository limits key.user key.collection
      reply.answer = run.result.map (fun recommendation =>
        { items := recommendation.items, seeds := some recommendation.seeds }) ∧
      reply.lookups = .owns key.user key.collection :: run.lookups ∧
      (∀ failure, run.result = .error failure → reply.cacheCalls = [.get key.text]) ∧
      ∀ recommendation, run.result = .ok recommendation →
        reply.cacheCalls = [.get key.text,
          .set key.text (ScoredManga.encodeList recommendation.items)]
  /-- The cache changes by the calls that are made and that succeed. -/
  effect : reply.cache = reply.cacheCalls.foldl Cache.carryOut cache
  /-- A failure leaves the cache as it was, and it is never one of the cache. -/
  failed : ∀ failure, reply.answer = .error failure →
    reply.cache = cache ∧
      (Refuses repository key failure ∨
        (Generator.forCollection repository limits key.user key.collection).result =
          .error failure)
  /-- No other key changes. -/
  others : ∀ text, text ≠ key.text → reply.cache.store.get? text = cache.store.get? text

variable (limits : Limits) (repository : Repository) (cache : Cache) (key : CacheKey)

theorem forCollection_of_refuses {failure : Failure} (hrefuses : Refuses repository key failure) :
    forCollection limits repository cache key.user key.collection =
      ⟨.error failure, cache, [], [.owns key.user key.collection]⟩ := by
  obtain howns | ⟨howns, rfl⟩ := hrefuses <;>
    simp only [forCollection, Repository.lookUpOwner, howns, Failure.collectionNotFound]

theorem forCollection_of_missed (howns : repository.owns key.user key.collection = .ok true)
    (hmissed : ∀ items, ¬cache.Holds key items) :
    forCollection limits repository cache key.user key.collection =
      let reply := generate limits repository cache key
      ⟨reply.answer, reply.cache, .get key.text :: reply.cacheCalls,
        .owns key.user key.collection :: reply.lookups⟩ := by
  simp only [forCollection, Repository.lookUpOwner, howns, cached_eq_none_iff.2 hmissed]
  rfl

theorem forCollection_of_missed_error {failure : Failure}
    (howns : repository.owns key.user key.collection = .ok true)
    (hmissed : ∀ items, ¬cache.Holds key items)
    (hrun : (Generator.forCollection repository limits key.user key.collection).result =
      .error failure) :
    forCollection limits repository cache key.user key.collection =
      ⟨.error failure, cache, [.get key.text], .owns key.user key.collection ::
        (Generator.forCollection repository limits key.user key.collection).lookups⟩ := by
  rw [forCollection_of_missed limits repository cache key howns hmissed]
  simp only [generate, hrun]

theorem forCollection_of_missed_ok {recommendation : Recommendation}
    (howns : repository.owns key.user key.collection = .ok true)
    (hmissed : ∀ items, ¬cache.Holds key items)
    (hrun : (Generator.forCollection repository limits key.user key.collection).result =
      .ok recommendation) :
    forCollection limits repository cache key.user key.collection =
      ⟨.ok (served recommendation), remember cache key recommendation.items,
        [.get key.text, .set key.text (ScoredManga.encodeList recommendation.items)],
        .owns key.user key.collection ::
          (Generator.forCollection repository limits key.user key.collection).lookups⟩ := by
  rw [forCollection_of_missed limits repository cache key howns hmissed]
  simp only [generate, hrun]

variable {limits repository cache key}

theorem hidesCache_of_refuses {failure : Failure} (hrefuses : Refuses repository key failure) :
    HidesCache limits repository cache key
      (forCollection limits repository cache key.user key.collection) := by
  have hforeign : repository.owns key.user key.collection ≠ .ok true := by
    obtain howns | ⟨howns, -⟩ := hrefuses <;> simp [howns]
  have hreply {failure : Failure} (hrefuses : Refuses repository key failure) :=
    forCollection_of_refuses limits repository cache key hrefuses
  rw [hreply hrefuses]
  refine ⟨fun other hother => ?_, fun howns => absurd howns hforeign,
    fun howns => absurd howns hforeign, rfl, fun other hanswer => ?_, fun _ _ => rfl⟩
  · exact (hreply hrefuses).symm.trans (hreply hother)
  · obtain rfl : failure = other := Except.error.inj hanswer
    exact ⟨rfl, .inl hrefuses⟩

theorem hidesCache_of_hit {items : List ScoredManga}
    (howns : repository.owns key.user key.collection = .ok true)
    (hholds : cache.Holds key items) :
    HidesCache limits repository cache key
      (forCollection limits repository cache key.user key.collection) := by
  have hcached : cached cache key = some items := cached_eq_some_iff.2 hholds
  rw [forCollection_of_cached limits repository cache howns hcached]
  refine ⟨fun failure hrefuses => ?_, fun _ other hother => ?_, fun _ hmissed => ?_, rfl,
    nofun, fun _ _ => rfl⟩
  · simp [Refuses, howns] at hrefuses
  · have : some items = some other := hcached.symm.trans (cached_eq_some_iff.2 hother)
    rw [Option.some.inj this]
  · exact absurd hholds (hmissed items)

theorem hidesCache_of_missed (howns : repository.owns key.user key.collection = .ok true)
    (hmissed : ∀ items, ¬cache.Holds key items) :
    HidesCache limits repository cache key
      (forCollection limits repository cache key.user key.collection) := by
  have hconsent : ∀ failure, ¬Refuses repository key failure := by simp [Refuses, howns]
  cases hrun : (Generator.forCollection repository limits key.user key.collection).result with
  | error failure =>
    rw [forCollection_of_missed_error limits repository cache key howns hmissed hrun]
    refine ⟨fun failure hrefuses => absurd hrefuses (hconsent failure),
      fun _ items hholds => absurd hholds (hmissed items), fun _ _ => ?_, rfl,
      fun other hanswer => ⟨rfl, .inr (hrun.trans (congrArg _ (Except.error.inj hanswer)))⟩,
      fun _ _ => rfl⟩
    simp [hrun, Except.map]
  | ok recommendation =>
    rw [forCollection_of_missed_ok limits repository cache key howns hmissed hrun]
    refine ⟨fun failure hrefuses => absurd hrefuses (hconsent failure),
      fun _ items hholds => absurd hholds (hmissed items), fun _ _ => ?_, rfl,
      nofun, fun text htext => ?_⟩
    · simp [hrun, served, Except.map]
    · simp [remember, Cache.get?_write, htext]

variable (limits repository cache key)

/-- Whatever a cache holds and however it fails, a request shows of it only items that it holds
under the request's own key. -/
theorem forCollection_hides_cache :
    HidesCache limits repository cache key
      (forCollection limits repository cache key.user key.collection) := by
  cases howns : repository.owns key.user key.collection with
  | error failure => exact hidesCache_of_refuses (.inl howns)
  | ok owned =>
    cases owned with
    | false => exact hidesCache_of_refuses (.inr ⟨howns, rfl⟩)
    | true =>
      by_cases hholds : ∃ items, cache.Holds key items
      · obtain ⟨items, hholds⟩ := hholds
        exact hidesCache_of_hit howns hholds
      · exact hidesCache_of_missed howns (not_exists.1 hholds)

end Service

end MangaRecommender
