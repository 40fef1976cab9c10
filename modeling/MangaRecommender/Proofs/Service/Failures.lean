import Mathlib
import MangaRecommender.Proofs.Generator.Stages
import MangaRecommender.Proofs.Service.Replies

/-!
# Where the failures of a service come from

A request fails because something is missing or empty that it asks for, or because a lookup that
was made for it fails; then it has the failure of this lookup.  Failures of the cache are none of a
request's.
-/

namespace MangaRecommender

/-- The failures that are no lookup's: a collection that is not there, and seeds that are none. -/
def Failure.ofService : List Failure := [.collectionNotFound, .emptyList, .emptyCollection]

namespace Traced

variable {First Second : Type} {repository : Repository}

/-- A failing lookup is the failure of all, the first one if there are several.  Every other failure
is one of the service's own. -/
structure FailsByLookup (repository : Repository) (traced : Traced First) : Prop where
  ofLookup : ∀ failure, traced.lookups.findSome? repository.failure? = some failure →
    traced.result = .error failure
  cause : ∀ failure, traced.result = .error failure →
    failure ∈ Failure.ofService ∨ traced.lookups.findSome? repository.failure? = some failure

namespace FailsByLookup

theorem of_endsAtFirstFailure {traced : Traced First}
    (hends : traced.EndsAtFirstFailure repository) : traced.FailsByLookup repository where
  ofLookup _ := hends.error_iff.2
  cause _ hfailure := .inr (hends.error_iff.1 hfailure)

/-- Without lookups there are no other failures than the service's own. -/
theorem of_own {answer : Except Failure First}
    (hown : ∀ failure, answer = .error failure → failure ∈ Failure.ofService) :
    FailsByLookup repository ⟨[], answer⟩ where
  ofLookup := nofun
  cause failure hfailure := .inl (hown failure hfailure)

theorem orElse (seeds : Seeds) {failure : Failure} (hown : failure ∈ Failure.ofService) :
    FailsByLookup repository ⟨[], seeds.orElse failure⟩ := by
  apply of_own
  intro other hother
  unfold Seeds.orElse at hother
  split at hother
  · cases hother
    exact hown
  · cases hother

/-- What succeeds has met no failing lookup. -/
theorem findSome?_eq_none {traced : Traced First} (hfails : traced.FailsByLookup repository)
    {value : First} (hresult : traced.result = .ok value) :
    traced.lookups.findSome? repository.failure? = none := by
  by_contra hfailing
  obtain ⟨failure, hfailure⟩ := Option.ne_none_iff_exists'.1 hfailing
  rw [hfails.ofLookup failure hfailure] at hresult
  cases hresult

theorem bind {first : Traced First} {next : First → Traced Second}
    (hfirst : first.FailsByLookup repository)
    (hnext : ∀ value, (next value).FailsByLookup repository) :
    (first >>= next).FailsByLookup repository := by
  cases hresult : first.result with
  | error other =>
    rw [bind_of_error hresult]
    constructor
    · intro failure hfailing
      obtain rfl : other = failure :=
        Except.error.inj (hresult.symm.trans (hfirst.ofLookup failure hfailing))
      rfl
    · intro failure hfailure
      cases hfailure
      exact hfirst.cause other hresult
  | ok value =>
    have hnone := hfirst.findSome?_eq_none hresult
    rw [bind_of_ok hresult]
    constructor
    · intro failure hfailing
      rw [List.findSome?_append, hnone, Option.none_or] at hfailing
      exact (hnext value).ofLookup failure hfailing
    · intro failure hfailure
      rw [List.findSome?_append, hnone, Option.none_or]
      exact (hnext value).cause failure hfailure

theorem map {traced : Traced First} (hfails : traced.FailsByLookup repository)
    (transform : First → Second) :
    FailsByLookup repository ⟨traced.lookups, traced.result.map transform⟩ where
  ofLookup failure hfailing := by
    rw [hfails.ofLookup failure hfailing]
    rfl
  cause failure hfailure := by
    apply hfails.cause
    cases hresult : traced.result with
    | error other => simpa [hresult, Except.map] using hfailure
    | ok value => simp [hresult, Except.map] at hfailure

end FailsByLookup

end Traced

namespace Generator

variable (repository : Repository) (limits : Limits)

theorem failsByLookup_forList (ids : List Int32) :
    (forList repository limits ids).FailsByLookup repository := by
  apply Traced.FailsByLookup.bind
  · exact .orElse _ (by decide)
  · exact fun seeds => .of_endsAtFirstFailure (endsAtFirstFailure_run limits seeds)

theorem failsByLookup_forCollection (user : Uuid) (collection : Int32) :
    (forCollection repository limits user collection).FailsByLookup repository := by
  apply Traced.FailsByLookup.bind
  · apply Traced.FailsByLookup.bind
    · exact .of_endsAtFirstFailure (.lookup rfl)
    · exact fun ids => .orElse _ (by decide)
  · exact fun seeds => .of_endsAtFirstFailure (endsAtFirstFailure_run limits seeds)

end Generator

/-- The answer of a reply, with the lookups that were made for it. -/
def Reply.traced {Value : Type} (reply : Reply Value) : Traced Value :=
  ⟨reply.lookups, reply.answer⟩

namespace Service

variable (limits : Limits) (repository : Repository) (cache : Cache)

theorem failsByLookup_forList (ids : List Int32) :
    (forList limits repository cache ids).traced.FailsByLookup repository :=
  (Generator.failsByLookup_forList repository limits ids).map served

/-- The answer for a collection comes by way of its owner from the cache or from the generator. -/
theorem traced_forCollection (user : Uuid) (collection : Int32) :
    (forCollection limits repository cache user collection).traced =
      repository.lookUpOwner user collection >>= fun
        | false => .fail .collectionNotFound
        | true =>
          match cached cache ⟨user, collection⟩ with
          | some items => .pure ⟨items, none⟩
          | none =>
            let run := Generator.forCollection repository limits user collection
            ⟨run.lookups, run.result.map served⟩ := by
  have hlookup : (repository.lookUpOwner user collection).result =
    repository.owns user collection := rfl
  simp only [Reply.traced, forCollection]
  cases howns : repository.owns user collection with
  | error failure =>
    rw [Traced.bind_of_error (hlookup.trans howns), hlookup, howns]
  | ok owned =>
    rw [Traced.bind_of_ok (hlookup.trans howns), hlookup, howns]
    cases owned with
    | false => rfl
    | true =>
      cases hcached : cached cache ⟨user, collection⟩ with
      | some items => rfl
      | none =>
        simp only [generate]
        cases (Generator.forCollection repository limits user collection).result with
        | error failure => rfl
        | ok recommendation => rfl

theorem failsByLookup_forCollection (user : Uuid) (collection : Int32) :
    (forCollection limits repository cache user collection).traced.FailsByLookup repository := by
  rw [traced_forCollection]
  apply Traced.FailsByLookup.bind
  · exact .of_endsAtFirstFailure (.lookup rfl)
  · intro owned
    cases owned with
    | false =>
      apply Traced.FailsByLookup.of_own
      intro failure hfailure
      cases hfailure
      decide
    | true =>
      cases cached cache ⟨user, collection⟩ with
      | some items => exact .of_own nofun
      | none =>
        exact (Generator.failsByLookup_forCollection repository limits user collection).map _

theorem traced_invalidateUser (user : Uuid) :
    (invalidateUser repository cache user).traced =
      ⟨[.userCollections user], (repository.userCollections user).map fun _ => ()⟩ := by
  cases hcollections : repository.userCollections user with
  | error failure => rw [invalidateUser_of_error repository cache hcollections]; rfl
  | ok collections => rw [invalidateUser_of_ok repository cache hcollections]; rfl

theorem failsByLookup_invalidateUser (user : Uuid) :
    (invalidateUser repository cache user).traced.FailsByLookup repository := by
  have hlookup : (repository.lookUpUserCollections user).FailsByLookup repository :=
    .of_endsAtFirstFailure (.lookup rfl)
  rw [traced_invalidateUser]
  exact hlookup.map _

theorem failsByLookup_perform (request : Request) :
    (perform limits repository cache request).traced.FailsByLookup repository := by
  cases request with
  | forCollection user collection =>
    exact (failsByLookup_forCollection limits repository cache user collection).map _
  | forList ids => exact (failsByLookup_forList limits repository cache ids).map _
  | invalidateUser user => exact (failsByLookup_invalidateUser repository cache user).map _
  | invalidateCollection user collection => exact .of_own nofun

end Service

end MangaRecommender
