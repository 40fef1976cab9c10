import Mathlib
import MangaRecommender.Proofs.Generator.Outcome
import MangaRecommender.Proofs.Service.Replies

/-!
# Where cached payloads come from

A store that was empty and that nobody else writes to holds only what the service remembered: under
the text of a key, the items that its user was served for the collection at one step of the run,
while the user owned it.  Such a payload always decodes, so that a later request of the owner finds
it whenever the cache can be read.
-/

namespace MangaRecommender.Service

/-- A payload that is found after a run was written by one of its steps. -/
theorem exists_writes_of_get? {limits : Limits} {start : World}
    (hempty : start.cache.store = .empty) {steps : List Step} (halone : StoresAlone steps)
    {text payload : String}
    (hpayload : (worldAfter limits start steps).cache.store.get? text = some payload) :
    ∃ before after key recommendation,
      steps = before ++ .request (.forCollection key.user key.collection) :: after ∧
      text = key.text ∧
      Writes limits (worldAfter limits start before).repository
        (worldAfter limits start before).cache key recommendation payload := by
  induction steps using List.reverseRecOn with
  | nil =>
    have hnone : start.cache.store.get? text = none := by rw [hempty, PayloadStore.get?_empty]
    exact absurd (hnone.symm.trans hpayload) (by simp)
  | append_singleton steps last ih =>
    have hlast : ∀ key payload, last ≠ .change (.payload key payload) := by
      rintro key payload rfl
      exact halone key payload (by simp)
    rw [worldAfter_concat] at hpayload
    obtain hold | ⟨key, recommendation, hrequest, htext, hwrites⟩ := get?_step hlast hpayload
    · obtain ⟨before, after, key, recommendation, hsteps, htext, hwrites⟩ :=
        ih halone.of_append hold
      refine ⟨before, after ++ [last], key, recommendation, ?_, htext, hwrites⟩
      rw [hsteps, List.append_assoc, List.cons_append]
    · exact ⟨steps, [], key, recommendation, by rw [hrequest], htext, hwrites⟩

/-- A readable payload is a hit for the owner, whatever else fails. -/
theorem forCollection_of_payload {limits : Limits} {repository : Repository} {cache : Cache}
    {key : CacheKey} {payload : String} {items : List ScoredManga}
    (hpayload : cache.store.get? key.text = some payload)
    (hdecode : ScoredManga.decodeList? payload = some items) (hget : .get ∉ cache.failing)
    (howns : repository.owns key.user key.collection = .ok true) :
    (forCollection limits repository cache key.user key.collection).answer =
      .ok ⟨items, none⟩ := by
  have hcached : cached cache key = some items :=
    Cache.read_eq_some_iff.2 ⟨hget, payload, hpayload, hdecode⟩
  rw [forCollection_of_cached limits repository cache howns hcached]

/-- The step of a run at which the owner of a collection was served the items of a payload. -/
structure Origin (limits : Limits) (start : World) (steps : List Step) (key : CacheKey)
    (payload : String) (before after : List Step) (recommendation : Recommendation) : Prop where
  steps_eq : steps = before ++ .request (.forCollection key.user key.collection) :: after
  owned : (worldAfter limits start before).tables.ownsCollection key.user key.collection = true
  generated : (Generator.forCollection (worldAfter limits start before).repository limits key.user
    key.collection).result = .ok recommendation
  answered : (perform limits (worldAfter limits start before).repository
    (worldAfter limits start before).cache (.forCollection key.user key.collection)).answer =
      .ok (.served { items := recommendation.items, seeds := some recommendation.seeds })
  payload_eq : payload = ScoredManga.encodeList recommendation.items

theorem exists_origin_of_get? {limits : Limits} {start : World}
    (hempty : start.cache.store = .empty) {steps : List Step} (halone : StoresAlone steps)
    {text payload : String}
    (hpayload : (worldAfter limits start steps).cache.store.get? text = some payload) :
    ∃ key before after recommendation, text = key.text ∧
      Origin limits start steps key payload before after recommendation := by
  obtain ⟨before, after, key, recommendation, hsteps, htext, hwrites⟩ :=
    exists_writes_of_get? hempty halone hpayload
  refine ⟨key, before, after, recommendation, htext, hsteps, ?_, hwrites.generated, ?_,
    hwrites.payload_eq⟩
  · exact Except.ok.inj (Tables.eq_of_unlessFailing_eq_ok hwrites.owns).2
  · simp only [perform, Reply.map, hwrites.answered, served, Except.map]

/-- Every stored key is the text of one user and one collection, and its payload is the text of the
items that this user was served for this collection at an earlier step, as its owner.  The payload
decodes, and is a hit for the owner as long as the cache can be read. -/
theorem stored_payload_provenance (limits : Limits) (start : World)
    (hempty : start.cache.store = .empty) (steps : List Step) (halone : StoresAlone steps)
    (text : String) (hstored : text ∈ (worldAfter limits start steps).cache.store.keys) :
    ∃ key payload before after recommendation,
      text = key.text ∧ (∀ other : CacheKey, text = other.text → other = key) ∧
      (worldAfter limits start steps).cache.store.get? text = some payload ∧
      Origin limits start steps key payload before after recommendation ∧
      ScoredManga.decodeList? payload = some (recommendation.items.map ScoredManga.storedForm) ∧
      ∀ (repository : Repository) (failing : List CacheOperation),
        repository.owns key.user key.collection = .ok true → .get ∉ failing →
        (forCollection limits repository ⟨(worldAfter limits start steps).cache.store, failing⟩
          key.user key.collection).answer =
            .ok ⟨recommendation.items.map ScoredManga.storedForm, none⟩ := by
  obtain ⟨payload, hpayload⟩ := PayloadStore.mem_keys_iff.1 hstored
  obtain ⟨key, before, after, recommendation, htext, horigin⟩ :=
    exists_origin_of_get? hempty halone hpayload
  have hdecode : ScoredManga.decodeList? payload =
      some (recommendation.items.map ScoredManga.storedForm) := by
    rw [horigin.payload_eq]
    exact Generator.decodeList?_of_forCollection horigin.generated
  refine ⟨key, payload, before, after, recommendation, htext, ?_, hpayload, horigin, hdecode, ?_⟩
  · intro other hother
    exact CacheKey.text_injective (hother.symm.trans htext)
  · intro repository failing howns hget
    rw [htext] at hpayload
    exact forCollection_of_payload hpayload hdecode hget howns

/-! ## A small catalogue -/

def reader : Uuid := ⟨7, by decide⟩

/-- Two manga of one genre, the second one with a rating that is no number, and a collection of
the first one. -/
def twoManga : Tables where
  manga := [⟨1, "First", none, none, none⟩, ⟨2, "Second", some .nan, none, none⟩]
  links kind := if kind = .genre then [(1, 5), (2, 5)] else []
  collections := [⟨10, reader, [1]⟩]
  fixedCandidates := none

/-- The first answer is not written; the second one is, and outlives the tables. -/
def lateWrite : List Step :=
  [.change (.cacheOutages [.set]), .request (.forCollection reader 10), .change (.cacheOutages []),
    .request (.forList [1]), .request (.forCollection reader 10), .change (.tables .empty)]

theorem storesAlone_lateWrite : StoresAlone lateWrite := by
  intro key payload hmem
  simp [lateWrite] at hmem

theorem stored_payload_provenance_lateWrite :
    (World.ofTables twoManga).cache.store = .empty ∧ StoresAlone lateWrite ∧
      CacheKey.text ⟨reader, 10⟩ ∈
        (worldAfter ⟨5, 5⟩ (.ofTables twoManga) lateWrite).cache.store.keys ∧
      ∃ payload before after recommendation,
        Origin ⟨5, 5⟩ (.ofTables twoManga) lateWrite ⟨reader, 10⟩ payload before after
          recommendation := by
  have hstored : CacheKey.text ⟨reader, 10⟩ ∈
      (worldAfter ⟨5, 5⟩ (.ofTables twoManga) lateWrite).cache.store.keys := by decide +kernel
  obtain ⟨key, payload, before, after, recommendation, -, hunique, -, horigin, -⟩ :=
    stored_payload_provenance ⟨5, 5⟩ (.ofTables twoManga) rfl lateWrite storesAlone_lateWrite _
      hstored
  obtain rfl := hunique ⟨reader, 10⟩ rfl
  exact ⟨rfl, storesAlone_lateWrite, hstored, payload, before, after, recommendation, horigin⟩

end MangaRecommender.Service
