import Mathlib
import MangaRecommender.Proofs.Catalogue.Database
import MangaRecommender.Proofs.Generator.Outcome
import MangaRecommender.Proofs.Service.Failures
import MangaRecommender.Proofs.Service.Transparency

/-!
# A service over a database

A repository that may fail where another one answers, and otherwise answers the same, can cost a
request its reply but never change it.  A database that holds tables is such a repository, so that
whatever is proved of the replies over tables holds of every reply that a service over the database
succeeds with.  The other requests fail with a statement, or for the service's own reasons; no
result of the database ever surprises its reader.
-/

namespace MangaRecommender

/-- Where the first reply succeeds, the second one has the same answer, makes the same calls of the
cache, and leaves the same cache. -/
def Reply.Refines {Value : Type} (first second : Reply Value) : Prop :=
  ∀ value, first.answer = .ok value →
    second.answer = .ok value ∧ second.cacheCalls = first.cacheCalls ∧ second.cache = first.cache

theorem Reply.Refines.map {First Second : Type} {first second : Reply First}
    (hrefines : first.Refines second) (transform : First → Second) :
    (first.map transform).Refines (second.map transform) := by
  intro value hanswer
  obtain ⟨original, horiginal, rfl⟩ : ∃ original, first.answer = .ok original ∧
      transform original = value := by
    cases hfirst : first.answer with
    | error failure => simp [Reply.map, hfirst, Except.map] at hanswer
    | ok original => exact ⟨original, rfl, by simpa [Reply.map, hfirst, Except.map] using hanswer⟩
  obtain ⟨hsecond, hcalls, hcache⟩ := hrefines original horiginal
  exact ⟨congrArg (Except.map transform) hsecond, hcalls, hcache⟩

namespace Service

section Refinement

variable {first second : Repository} (hrefines : first.Refines second) (limits : Limits)
  (cache : Cache)

include hrefines

theorem forCollection_refines (user : Uuid) (collection : Int32) :
    (forCollection limits first cache user collection).Refines
      (forCollection limits second cache user collection) := by
  intro value hanswer
  cases howns : first.owns user collection with
  | error failure =>
    simp [forCollection, Repository.lookUpOwner, howns] at hanswer
  | ok owned =>
    have howns' : second.owns user collection = .ok owned := hrefines.owns user collection _ howns
    cases owned with
    | false => simp [forCollection, Repository.lookUpOwner, howns] at hanswer
    | true =>
      by_cases hholds : ∃ items, cache.Holds ⟨user, collection⟩ items
      · obtain ⟨items, hholds⟩ := hholds
        have hcached := cached_eq_some_iff.2 hholds
        rw [forCollection_of_cached limits first cache howns hcached] at hanswer ⊢
        rw [forCollection_of_cached limits second cache howns' hcached]
        exact ⟨hanswer, rfl, rfl⟩
      · have hmissed := not_exists.1 hholds
        cases hrun : (Generator.forCollection first limits user collection).result with
        | error failure =>
          rw [forCollection_of_missed_error limits first cache ⟨user, collection⟩ howns hmissed hrun]
            at hanswer
          cases hanswer
        | ok recommendation =>
          have hrun' := Generator.forCollection_refines hrefines limits user collection _ hrun
          have hreply :=
            forCollection_of_missed_ok limits first cache ⟨user, collection⟩ howns hmissed hrun
          have hreply' :=
            forCollection_of_missed_ok limits second cache ⟨user, collection⟩ howns' hmissed hrun'
          rw [hreply] at hanswer ⊢
          rw [hreply']
          exact ⟨hanswer, rfl, rfl⟩

theorem forList_refines (ids : List Int32) :
    (forList limits first cache ids).Refines (forList limits second cache ids) := by
  intro value hanswer
  cases hrun : (Generator.forList first limits ids).result with
  | error failure => simp [forList, hrun, Except.map] at hanswer
  | ok recommendation =>
    have hrun' := Generator.forList_refines hrefines limits ids _ hrun
    rw [forList, hrun] at hanswer
    refine ⟨?_, rfl, rfl⟩
    rw [forList, hrun']
    exact hanswer

theorem invalidateUser_refines (user : Uuid) :
    (invalidateUser first cache user).Refines (invalidateUser second cache user) := by
  intro value hanswer
  cases hcollections : first.userCollections user with
  | error failure =>
    rw [invalidateUser_of_error first cache hcollections] at hanswer
    cases hanswer
  | ok collections =>
    have hcollections' : second.userCollections user = .ok collections :=
      hrefines.userCollections user _ hcollections
    rw [invalidateUser_of_ok first cache hcollections,
      invalidateUser_of_ok second cache hcollections']
    exact ⟨rfl, rfl, rfl⟩

/-- No request notices which of two such repositories it is answered from, unless it fails. -/
theorem perform_refines (request : Request) :
    (perform limits first cache request).Refines (perform limits second cache request) := by
  cases request with
  | forCollection user collection =>
    exact (forCollection_refines hrefines limits cache user collection).map _
  | forList ids => exact (forList_refines hrefines limits cache ids).map _
  | invalidateUser user => exact (invalidateUser_refines hrefines cache user).map _
  | invalidateCollection user collection => exact fun _ hanswer => ⟨hanswer, rfl, rfl⟩

end Refinement

/-- A request that succeeds over a database has the reply that the tables in it lead to. -/
theorem perform_database_refines {database : Database} {tables : Tables}
    (hholds : database.Holds tables) (hkeyed : tables.AreKeyed) (limits : Limits) (cache : Cache)
    (request : Request) :
    (perform limits database.repository cache request).Refines
      (perform limits (tables.repository .none) cache request) :=
  perform_refines (hholds.answersFor hkeyed).refines limits cache request

/-- A request that fails over a database has met a failing statement, or is refused by the
service. -/
theorem perform_database_failure {database : Database} {tables : Tables}
    (hholds : database.Holds tables) (hkeyed : tables.AreKeyed) {limits : Limits} {cache : Cache}
    {request : Request} {failure : Failure}
    (hfailure : (perform limits database.repository cache request).answer = .error failure) :
    failure ∈ Failure.ofService ∨ ∃ statement, database.execute statement = .error failure := by
  rcases (failsByLookup_perform limits database.repository cache request).cause failure hfailure
    with hown | hlookup
  · exact .inl hown
  obtain ⟨lookup, -, hfailing⟩ := List.exists_of_findSome?_eq_some hlookup
  rcases (hholds.answersFor hkeyed).failure_cases hfailing with hstatement | ⟨_, _, -, -, rfl⟩
  · exact .inr hstatement
  · exact .inl (by decide)

end Service

end MangaRecommender
