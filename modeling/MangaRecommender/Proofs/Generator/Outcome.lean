import Mathlib
import MangaRecommender.Generator
import MangaRecommender.Proofs.Catalogue.Traced
import MangaRecommender.Proofs.Score.Finite

/-!
# What a run of the generator can answer

A failing call can only take an answer away: what a run answers in spite of outages it answers
without them too.  Every item of an answer has a finite score, whatever the ratings in the
catalogue, so that an answer can be written down and read back.
-/

namespace MangaRecommender

section Lookups

variable {first second : Repository} {seeds seeds' : List Int32}

/-- A profile is made of the answers about the seeds, and of nothing else. -/
theorem Profile.build_refines
    (hlinks : ∀ kind, (first.lookUpLinks kind seeds).Refines (second.lookUpLinks kind seeds'))
    (hratings : (first.lookUpRatings seeds).Refines (second.lookUpRatings seeds'))
    (hdates : (first.lookUpDates seeds).Refines (second.lookUpDates seeds')) :
    (Profile.build first seeds).Refines (Profile.build second seeds') := by
  have hrows : (Profile.lookUpRows first seeds).Refines (Profile.lookUpRows second seeds') := by
    apply Traced.Refines.bind
    · apply (hlinks .genre).together
      apply (hlinks .tag).together
      apply (hlinks .demographic).together
      apply (hlinks .author).together
      exact hratings.together hdates
    · exact fun rows => Traced.Refines.refl _
  exact hrows.bind fun rows => Traced.Refines.refl _

theorem Candidates.admissible_congr (hmembers : ∀ id, id ∈ seeds ↔ id ∈ seeds')
    (rows : List Manga) : admissible seeds rows = admissible seeds' rows := by
  have hadmissible : isAdmissible seeds = isAdmissible seeds' := by
    funext row
    simp only [isAdmissible, List.contains_eq_mem, hmembers]
  rw [admissible, admissible, hadmissible]

/-- Candidates depend on the answer to the query, and on which manga are seeds. -/
theorem Candidates.select_refines (hmembers : ∀ id, id ∈ seeds ↔ id ∈ seeds') (profile : Profile)
    (limit : Int)
    (hrows : (first.lookUpCandidates (query seeds profile limit)).Refines
      (second.lookUpCandidates (query seeds' profile limit))) :
    (Candidates.select first seeds profile limit).Refines
      (Candidates.select second seeds' profile limit) := by
  unfold Candidates.select
  simp only [admissible_congr hmembers]
  have hattributes : (query seeds profile limit).hasNoAttributes =
      (query seeds' profile limit).hasNoAttributes := rfl
  rw [hattributes]
  split
  · exact Traced.Refines.refl _
  · exact hrows.bind fun rows => Traced.Refines.refl _

end Lookups

section Refinement

variable {first second : Repository} (hrefines : first.Refines second)

include hrefines

theorem Features.load_refines (ids : List Int32) :
    (Features.load first ids).Refines (Features.load second ids) := by
  unfold Features.load
  split
  · exact Traced.Refines.refl _
  · apply Traced.Refines.bind
    · apply (hrefines.links .genre ids).together
      apply (hrefines.links .tag ids).together
      exact (hrefines.links .demographic ids).together (hrefines.links .author ids)
    · exact fun links => Traced.Refines.refl _

theorem Seeds.ofCollection_refines (maxSeeds : Nat) (user : Uuid) (collection : Int32) :
    (Seeds.ofCollection first maxSeeds user collection).Refines
      (Seeds.ofCollection second maxSeeds user collection) :=
  (hrefines.collectionManga user collection).bind fun _ => Traced.Refines.refl _

namespace Generator

theorem rankCandidates_refines (profile : Profile) (candidates : List Manga) :
    (rankCandidates first profile candidates).Refines
      (rankCandidates second profile candidates) := by
  unfold rankCandidates
  split
  · exact Traced.Refines.refl _
  · exact (Features.load_refines hrefines _).bind fun features => Traced.Refines.refl _

theorem run_refines (limits : Limits) (seeds : Seeds) :
    (run first limits seeds).Refines (run second limits seeds) := by
  apply (Profile.build_refines (fun kind => hrefines.links kind seeds.ids)
    (hrefines.ratings seeds.ids) (hrefines.dates seeds.ids)).bind
  intro profile
  apply (Candidates.select_refines (fun id => Iff.rfl) profile limits.maxCandidates
    (hrefines.candidates _)).bind
  intro candidates
  apply (rankCandidates_refines hrefines profile candidates).bind
  exact fun items => Traced.Refines.refl _

/-- An answer in spite of failing calls is the answer that there would be without them. -/
theorem forCollection_refines (limits : Limits) (user : Uuid) (collection : Int32) :
    (forCollection first limits user collection).Refines
      (forCollection second limits user collection) :=
  (Seeds.ofCollection_refines hrefines limits.maxSeeds user collection).bind
    fun seeds => run_refines hrefines limits seeds

/-- The ids of a list are looked up nowhere; only the run over them asks the repository. -/
theorem forList_refines (limits : Limits) (ids : List Int32) :
    (forList first limits ids).Refines (forList second limits ids) :=
  (Traced.Refines.refl _).bind fun seeds => run_refines hrefines limits seeds

end Generator

end Refinement

namespace Generator

variable {repository : Repository} {limits : Limits}

theorem hasFiniteScore_of_rankCandidates {profile : Profile} {candidates : List Manga}
    {items : List ScoredManga}
    (hitems : (rankCandidates repository profile candidates).result = .ok items) :
    ∀ item ∈ items, item.HasFiniteScore := by
  intro item hmem
  unfold rankCandidates at hitems
  split at hitems
  · cases hitems
    exact absurd hmem List.not_mem_nil
  · obtain ⟨features, -, hranked⟩ := Traced.result_bind_eq_ok.1 hitems
    cases hranked
    exact Score.hasFiniteScore_of_mem_rankAll hmem

theorem hasFiniteScore_of_run {seeds : Seeds} {recommendation : Recommendation}
    (hrun : (run repository limits seeds).result = .ok recommendation) :
    ∀ item ∈ recommendation.items, item.HasFiniteScore := by
  obtain ⟨profile, -, hselect⟩ := Traced.result_bind_eq_ok.1 hrun
  obtain ⟨candidates, -, hrank⟩ := Traced.result_bind_eq_ok.1 hselect
  obtain ⟨items, hitems, hrecommendation⟩ := Traced.result_bind_eq_ok.1 hrank
  cases hrecommendation
  exact hasFiniteScore_of_rankCandidates hitems

/-- The items of an answer have finite scores, however wild the ratings are. -/
theorem hasFiniteScore_of_forCollection {user : Uuid} {collection : Int32}
    {recommendation : Recommendation}
    (hanswer : (forCollection repository limits user collection).result = .ok recommendation) :
    ∀ item ∈ recommendation.items, item.HasFiniteScore := by
  obtain ⟨seeds, -, hrun⟩ := Traced.result_bind_eq_ok.1 hanswer
  exact hasFiniteScore_of_run hrun

/-- The payload of an answer decodes to the stored forms of its items. -/
theorem decodeList?_of_forCollection {user : Uuid} {collection : Int32}
    {recommendation : Recommendation}
    (hanswer : (forCollection repository limits user collection).result = .ok recommendation) :
    ScoredManga.decodeList? (ScoredManga.encodeList recommendation.items) =
      some (recommendation.items.map ScoredManga.storedForm) :=
  ScoredManga.decodeList?_encodeList (hasFiniteScore_of_forCollection hanswer)

end Generator

end MangaRecommender
