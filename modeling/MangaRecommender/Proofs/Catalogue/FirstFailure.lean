import Mathlib
import MangaRecommender.Proofs.Catalogue.Traced

/-!
# The first failure counts

Nothing but a lookup can fail on the way from one lookup to the next.  A computation that is put
together from lookups then fails exactly if one of its lookups does, with the failure of the first
one that does; this holds of lookups in sequence, where the first failure is the last lookup, and
of lookups that are made together, where others follow it.
-/

namespace MangaRecommender

variable {First Second : Type}

/-- The failure of an answer, if it is one. -/
def Failure.ofAnswer? : Except Failure First → Option Failure
  | .ok _ => none
  | .error failure => some failure

theorem Failure.ofAnswer?_eq_none_iff {answer : Except Failure First} :
    ofAnswer? answer = none ↔ ∃ value, answer = .ok value := by
  cases answer with
  | ok value => simp [ofAnswer?]
  | error failure => simp [ofAnswer?]

theorem Failure.ofAnswer?_eq_some_iff {answer : Except Failure First} {failure : Failure} :
    ofAnswer? answer = some failure ↔ answer = .error failure := by
  cases answer with
  | ok value => simp [ofAnswer?]
  | error other => simp [ofAnswer?]

/-- The failure that a repository answers a lookup with, if it does not succeed. -/
def Repository.failure? (repository : Repository) : Lookup → Option Failure
  | .links kind ids => Failure.ofAnswer? (repository.links kind ids)
  | .ratings ids => Failure.ofAnswer? (repository.ratings ids)
  | .dates ids => Failure.ofAnswer? (repository.dates ids)
  | .candidates query => Failure.ofAnswer? (repository.candidates query)
  | .owns user collection => Failure.ofAnswer? (repository.owns user collection)
  | .collectionManga user collection =>
    Failure.ofAnswer? (repository.collectionManga user collection)
  | .userCollections user => Failure.ofAnswer? (repository.userCollections user)

namespace Traced

/-- The computation fails with the first failure among its lookups, and if there is none it does
not fail. -/
def EndsAtFirstFailure (repository : Repository) (traced : Traced First) : Prop :=
  Failure.ofAnswer? traced.result = traced.lookups.findSome? repository.failure?

variable {repository : Repository}

namespace EndsAtFirstFailure

theorem pure (value : First) : EndsAtFirstFailure repository (Pure.pure value : Traced First) := rfl

/-- A lookup by itself. -/
theorem lookup {lookup : Lookup} {answer : Except Failure First}
    (hanswer : Failure.ofAnswer? answer = repository.failure? lookup) :
    EndsAtFirstFailure repository ⟨[lookup], answer⟩ := by
  rw [EndsAtFirstFailure, hanswer, List.findSome?_singleton]

theorem links (kind : AttributeKind) (ids : List Int32) :
    EndsAtFirstFailure repository (repository.lookUpLinks kind ids) := lookup rfl

theorem ratings (ids : List Int32) :
    EndsAtFirstFailure repository (repository.lookUpRatings ids) := lookup rfl

theorem dates (ids : List Int32) :
    EndsAtFirstFailure repository (repository.lookUpDates ids) := lookup rfl

theorem candidates (query : CandidateQuery) :
    EndsAtFirstFailure repository (repository.lookUpCandidates query) := lookup rfl

theorem bind {first : Traced First} {next : First → Traced Second}
    (hfirst : first.EndsAtFirstFailure repository)
    (hnext : ∀ value, (next value).EndsAtFirstFailure repository) :
    (first >>= next).EndsAtFirstFailure repository := by
  unfold EndsAtFirstFailure at hfirst hnext ⊢
  cases hresult : first.result with
  | error failure =>
    rw [bind_of_error hresult, ← hfirst, hresult]
    rfl
  | ok value =>
    rw [hresult] at hfirst
    have hnone : first.lookups.findSome? repository.failure? = none := hfirst.symm
    rw [bind_of_ok hresult, List.findSome?_append, hnone, Option.none_or]
    exact hnext value

/-- Of two computations that are made together and both fail, the first one counts. -/
theorem together {first : Traced First} {second : Traced Second}
    (hfirst : first.EndsAtFirstFailure repository)
    (hsecond : second.EndsAtFirstFailure repository) :
    (first.together second).EndsAtFirstFailure repository := by
  unfold EndsAtFirstFailure at hfirst hsecond ⊢
  rw [Traced.together, List.findSome?_append, ← hfirst, ← hsecond]
  cases first.result with
  | error failure => rfl
  | ok left =>
    cases second.result with
    | error failure => rfl
    | ok right => rfl

theorem error_iff {traced : Traced First} (hends : traced.EndsAtFirstFailure repository)
    {failure : Failure} :
    traced.result = .error failure ↔
      traced.lookups.findSome? repository.failure? = some failure := by
  rw [← hends, Failure.ofAnswer?_eq_some_iff]

theorem ok_iff {traced : Traced First} (hends : traced.EndsAtFirstFailure repository) :
    (∃ value, traced.result = .ok value) ↔
      ∀ lookup ∈ traced.lookups, repository.failure? lookup = none := by
  rw [← Failure.ofAnswer?_eq_none_iff, hends, List.findSome?_eq_none_iff]

end EndsAtFirstFailure

/-- Lookups among which no candidates are asked for add no queries. -/
theorem queries_append {asked : List Lookup} (hquiet : ∀ query, .candidates query ∉ asked)
    (later : List Lookup) (result : Except Failure First) :
    (⟨asked ++ later, result⟩ : Traced First).queries =
      (⟨later, result⟩ : Traced First).queries := by
  have hnone : (⟨asked, result⟩ : Traced First).queries = [] := by
    rw [queries, List.filterMap_eq_nil_iff]
    rintro (_ | _ | _ | query | _ | _ | _) hlookup
    case candidates => exact absurd hlookup (hquiet query)
    all_goals rfl
  rw [queries, List.filterMap_append]
  exact (congrArg (· ++ _) hnone).trans (List.nil_append _)

/-- What is done with a result without further lookups adds none. -/
theorem lookups_bind_of_nil {first : Traced First} {next : First → Traced Second}
    (hnext : ∀ value, (next value).lookups = []) : (first >>= next).lookups = first.lookups := by
  cases hresult : first.result with
  | error failure => rw [bind_of_error hresult]
  | ok value => rw [bind_of_ok hresult, hnext, List.append_nil]

end Traced

end MangaRecommender
