import Mathlib
import MangaRecommender.Proofs.Catalogue.MapError
import MangaRecommender.Proofs.Service.Failures

/-!
# Services over repositories with other failures

A request does the same with other failures of the repository: it leaves the same cache, makes the
same calls, and fails where it failed.  Only the failures of the service's own must be kept.
-/

namespace MangaRecommender

/-- The failures that no lookup has are not changed. -/
def KeepsOwn (change : Failure → Failure) : Prop :=
  ∀ failure ∈ Failure.ofService, change failure = failure

/-- The reply with other failures. -/
def Reply.mapError {Value : Type} (change : Failure → Failure) (reply : Reply Value) :
    Reply Value :=
  { reply with answer := reply.answer.mapError change }

variable (change : Failure → Failure) (repository : Repository)

@[simp] theorem Profile.build_mapError (seeds : List Int32) :
    build (repository.mapError change) seeds = (build repository seeds).mapError change := by
  simp [build, lookUpRows]

@[simp] theorem Features.load_mapError (ids : List Int32) :
    load (repository.mapError change) ids = (load repository ids).mapError change := by
  unfold load
  split <;> simp

@[simp] theorem Candidates.select_mapError (seeds : List Int32) (profile : Profile) (limit : Int) :
    select (repository.mapError change) seeds profile limit =
      (select repository seeds profile limit).mapError change := by
  unfold select
  simp only
  split <;> simp

theorem Seeds.orElse_mapError {failure : Failure} (hkept : change failure = failure)
    (seeds : Seeds) : (seeds.orElse failure).mapError change = seeds.orElse failure := by
  unfold orElse
  split
  · exact congrArg Except.error hkept
  · rfl

namespace Generator

variable (limits : Limits)

@[simp] theorem rankCandidates_mapError (profile : Profile) (candidates : List Manga) :
    rankCandidates (repository.mapError change) profile candidates =
      (rankCandidates repository profile candidates).mapError change := by
  unfold rankCandidates
  split <;> simp

@[simp] theorem run_mapError (seeds : Seeds) :
    run (repository.mapError change) limits seeds =
      (run repository limits seeds).mapError change := by
  simp [run]

variable {change} (hown : KeepsOwn change)

include hown

theorem forList_mapError (ids : List Int32) :
    forList (repository.mapError change) limits ids =
      (forList repository limits ids).mapError change := by
  have hseeds : Traced.mapError change ⟨[], Seeds.ofList limits.maxSeeds ids⟩ =
      ⟨[], Seeds.ofList limits.maxSeeds ids⟩ :=
    congrArg (Traced.mk []) (Seeds.orElse_mapError change (hown _ (by decide)) _)
  rw [forList, forList, Traced.mapError_bind, hseeds]
  simp

theorem forCollection_mapError (user : Uuid) (collection : Int32) :
    forCollection (repository.mapError change) limits user collection =
      (forCollection repository limits user collection).mapError change := by
  have hseeds : ∀ ids : List Int32,
      Traced.mapError change ⟨[], (Seeds.capped limits.maxSeeds ids).orElse .emptyCollection⟩ =
        ⟨[], (Seeds.capped limits.maxSeeds ids).orElse .emptyCollection⟩ :=
    fun ids => congrArg (Traced.mk []) (Seeds.orElse_mapError change (hown _ (by decide)) _)
  simp [forCollection, Seeds.ofCollection, hseeds]

end Generator

namespace Service

variable (limits : Limits) (cache : Cache) {change} (hown : KeepsOwn change)

theorem invalidateUser_mapError (user : Uuid) :
    invalidateUser (repository.mapError change) cache user =
      (invalidateUser repository cache user).mapError change := by
  cases hcollections : repository.userCollections user with
  | error failure =>
    have hchanged : (repository.mapError change).userCollections user = .error (change failure) :=
      congrArg (Except.mapError change) hcollections
    rw [invalidateUser_of_error repository cache hcollections,
      invalidateUser_of_error _ cache hchanged]
    rfl
  | ok collections =>
    have hchanged : (repository.mapError change).userCollections user = .ok collections :=
      congrArg (Except.mapError change) hcollections
    rw [invalidateUser_of_ok repository cache hcollections, invalidateUser_of_ok _ cache hchanged]
    rfl

include hown

theorem forList_mapError (ids : List Int32) :
    forList limits (repository.mapError change) cache ids =
      (forList limits repository cache ids).mapError change := by
  rw [forList, Generator.forList_mapError repository limits hown]
  cases hrun : (Generator.forList repository limits ids).result with
  | error failure => simp only [forList, Traced.mapError, Reply.mapError, hrun]; rfl
  | ok recommendation => simp only [forList, Traced.mapError, Reply.mapError, hrun]; rfl

theorem generate_mapError (key : CacheKey) :
    generate limits (repository.mapError change) cache key =
      (generate limits repository cache key).mapError change := by
  rw [generate, generate, Generator.forCollection_mapError repository limits hown]
  cases hrun : (Generator.forCollection repository limits key.user key.collection).result with
  | error failure => simp only [Traced.mapError, hrun]; rfl
  | ok recommendation => simp only [Traced.mapError, hrun]; rfl

theorem forCollection_mapError (user : Uuid) (collection : Int32) :
    forCollection limits (repository.mapError change) cache user collection =
      (forCollection limits repository cache user collection).mapError change := by
  have hlookup : (repository.lookUpOwner user collection).result =
    repository.owns user collection := rfl
  simp only [forCollection, Repository.lookUpOwner_mapError, Traced.mapError, hlookup]
  cases repository.owns user collection with
  | error failure => rfl
  | ok owned =>
    cases owned with
    | false => simp [Except.mapError, Reply.mapError, hown .collectionNotFound (by decide)]
    | true =>
      cases hcached : cached cache ⟨user, collection⟩ with
      | some items => simp [Except.mapError, Reply.mapError]
      | none =>
        simp only [Except.mapError, generate_mapError repository limits cache hown]
        rfl

end Service

end MangaRecommender
