import Mathlib
import MangaRecommender.Proofs.Catalogue.Traced

/-!
# Repositories with other failures

A repository may fail where another one does, and with other failures.  A computation cannot see a
failure and go on, so with either repository it makes the same lookups, and it fails with the one
failure or the other.
-/

namespace MangaRecommender

variable (change : Failure → Failure)

namespace Traced

variable {First Second : Type}

/-- The computation with other failures. -/
def mapError (traced : Traced First) : Traced First :=
  ⟨traced.lookups, traced.result.mapError change⟩

@[simp] theorem mapError_pure (value : First) :
    (Pure.pure value : Traced First).mapError change = Pure.pure value := rfl

@[simp] theorem mapError_bind (first : Traced First) (next : First → Traced Second) :
    (first >>= next).mapError change =
      first.mapError change >>= fun value => (next value).mapError change := by
  cases hresult : first.result with
  | error failure =>
    have hchanged : (first.mapError change).result = .error (change failure) := by
      rw [mapError, hresult]
      rfl
    rw [bind_of_error hresult, bind_of_error hchanged]
    rfl
  | ok value =>
    have hchanged : (first.mapError change).result = .ok value := by
      rw [mapError, hresult]
      rfl
    rw [bind_of_ok hresult, bind_of_ok hchanged]
    rfl

@[simp] theorem mapError_together (first : Traced First) (second : Traced Second) :
    (first.together second).mapError change =
      (first.mapError change).together (second.mapError change) := by
  simp only [together, mapError]
  congr 1
  cases first.result with
  | error failure => rfl
  | ok left =>
    cases second.result with
    | error failure => rfl
    | ok right => rfl

end Traced

namespace Repository

/-- The repository with other failures. -/
def mapError (repository : Repository) : Repository where
  links kind ids := (repository.links kind ids).mapError change
  ratings ids := (repository.ratings ids).mapError change
  dates ids := (repository.dates ids).mapError change
  candidates query := (repository.candidates query).mapError change
  owns user collection := (repository.owns user collection).mapError change
  collectionManga user collection := (repository.collectionManga user collection).mapError change
  userCollections user := (repository.userCollections user).mapError change

section Lookups

variable (repository : Repository)

@[simp] theorem lookUpLinks_mapError (kind : AttributeKind) (ids : List Int32) :
    (repository.mapError change).lookUpLinks kind ids =
      (repository.lookUpLinks kind ids).mapError change := rfl

@[simp] theorem lookUpRatings_mapError (ids : List Int32) :
    (repository.mapError change).lookUpRatings ids =
      (repository.lookUpRatings ids).mapError change := rfl

@[simp] theorem lookUpDates_mapError (ids : List Int32) :
    (repository.mapError change).lookUpDates ids =
      (repository.lookUpDates ids).mapError change := rfl

@[simp] theorem lookUpCandidates_mapError (query : CandidateQuery) :
    (repository.mapError change).lookUpCandidates query =
      (repository.lookUpCandidates query).mapError change := rfl

@[simp] theorem lookUpOwner_mapError (user : Uuid) (collection : Int32) :
    (repository.mapError change).lookUpOwner user collection =
      (repository.lookUpOwner user collection).mapError change := rfl

@[simp] theorem lookUpCollection_mapError (user : Uuid) (collection : Int32) :
    (repository.mapError change).lookUpCollection user collection =
      (repository.lookUpCollection user collection).mapError change := rfl

end Lookups

end Repository

end MangaRecommender
