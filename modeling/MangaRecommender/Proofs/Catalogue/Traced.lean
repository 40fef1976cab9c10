import Mathlib
import MangaRecommender.Catalogue.Tables

/-!
# Traced computations

A sequence of lookups has a result exactly if each of its parts has one, and lookups that are made
together have their results together.  A computation refines another one if it answers, where it
answers at all, what the other answers: failures of a repository can keep a result from a caller,
and never change it.
-/

namespace MangaRecommender

namespace Traced

variable {First Second : Type}

theorem bind_of_ok {first : Traced First} {value : First} (hresult : first.result = .ok value)
    (next : First → Traced Second) :
    first >>= next = ⟨first.lookups ++ (next value).lookups, (next value).result⟩ := by
  show Traced.bind first next = _
  rw [Traced.bind, hresult]

theorem bind_of_error {first : Traced First} {failure : Failure}
    (hresult : first.result = .error failure) (next : First → Traced Second) :
    first >>= next = ⟨first.lookups, .error failure⟩ := by
  show Traced.bind first next = _
  rw [Traced.bind, hresult]

/-- A sequence succeeds through the result of its first part. -/
theorem result_bind_eq_ok {first : Traced First} {next : First → Traced Second} {value : Second} :
    (first >>= next).result = .ok value ↔
      ∃ middle, first.result = .ok middle ∧ (next middle).result = .ok value := by
  cases hresult : first.result with
  | error failure => simp [bind_of_error hresult]
  | ok middle => simp [bind_of_ok hresult]

theorem result_together_eq_ok {first : Traced First} {second : Traced Second}
    {values : First × Second} :
    (first.together second).result = .ok values ↔
      first.result = .ok values.1 ∧ second.result = .ok values.2 := by
  obtain ⟨left, right⟩ := values
  cases hfirst : first.result with
  | error failure => simp [together, hfirst, Bind.bind, Except.bind]
  | ok left' =>
    cases hsecond : second.result with
    | error failure => simp [together, hfirst, hsecond, Bind.bind, Except.bind]
    | ok right' => simp [together, hfirst, hsecond, Bind.bind, Except.bind, Pure.pure, Except.pure]

/-- Whatever the first computation answers, the second one answers too. -/
def Refines (first second : Traced First) : Prop :=
  ∀ value, first.result = .ok value → second.result = .ok value

theorem Refines.refl (traced : Traced First) : traced.Refines traced := fun _ hresult => hresult

theorem Refines.bind {first first' : Traced First} {next next' : First → Traced Second}
    (hfirst : first.Refines first') (hnext : ∀ value, (next value).Refines (next' value)) :
    (first >>= next).Refines (first' >>= next') := by
  intro value hvalue
  obtain ⟨middle, hmiddle, hrest⟩ := result_bind_eq_ok.1 hvalue
  exact result_bind_eq_ok.2 ⟨middle, hfirst middle hmiddle, hnext middle value hrest⟩

theorem Refines.together {first first' : Traced First} {second second' : Traced Second}
    (hfirst : first.Refines first') (hsecond : second.Refines second') :
    (first.together second).Refines (first'.together second') := by
  intro values hvalues
  obtain ⟨hleft, hright⟩ := result_together_eq_ok.1 hvalues
  exact result_together_eq_ok.2 ⟨hfirst _ hleft, hsecond _ hright⟩

end Traced

namespace Repository

/-- Every lookup of the first repository is one of the second, or fails. -/
structure Refines (first second : Repository) : Prop where
  links : ∀ kind ids, (first.lookUpLinks kind ids).Refines (second.lookUpLinks kind ids)
  ratings : ∀ ids, (first.lookUpRatings ids).Refines (second.lookUpRatings ids)
  dates : ∀ ids, (first.lookUpDates ids).Refines (second.lookUpDates ids)
  candidates : ∀ query, (first.lookUpCandidates query).Refines (second.lookUpCandidates query)
  owns : ∀ user collection,
    (first.lookUpOwner user collection).Refines (second.lookUpOwner user collection)
  collectionManga : ∀ user collection,
    (first.lookUpCollection user collection).Refines (second.lookUpCollection user collection)
  userCollections : ∀ user,
    (first.lookUpUserCollections user).Refines (second.lookUpUserCollections user)

end Repository

namespace Tables

theorem eq_of_unlessFailing_eq_ok {Value : Type} {outages : Outages} {call : RepositoryCall}
    {answer : Except Failure Value} {value : Value}
    (hanswer : unlessFailing outages call answer = .ok value) :
    outages call = none ∧ answer = .ok value := by
  unfold unlessFailing at hanswer
  split at hanswer
  · cases hanswer
  · next hcall => exact ⟨hcall, hanswer⟩

/-- Tables with failing calls refine the same tables without. -/
theorem repository_refines (tables : Tables) (outages : Outages) :
    (tables.repository outages).Refines (tables.repository .none) where
  links _ _ _ hanswer := (eq_of_unlessFailing_eq_ok hanswer).2
  ratings _ _ hanswer := (eq_of_unlessFailing_eq_ok hanswer).2
  dates _ _ hanswer := (eq_of_unlessFailing_eq_ok hanswer).2
  candidates _ _ hanswer := (eq_of_unlessFailing_eq_ok hanswer).2
  owns _ _ _ hanswer := (eq_of_unlessFailing_eq_ok hanswer).2
  collectionManga _ _ _ hanswer := (eq_of_unlessFailing_eq_ok hanswer).2
  userCollections _ _ hanswer := (eq_of_unlessFailing_eq_ok hanswer).2

end Tables

end MangaRecommender
