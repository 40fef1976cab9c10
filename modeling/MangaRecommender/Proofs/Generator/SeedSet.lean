import Mathlib
import MangaRecommender.Proofs.Generator.Outcome
import MangaRecommender.Proofs.Generator.Stages
import MangaRecommender.Proofs.Seeds

/-!
# Seeds as a set

Seeds come as a list or as a collection, in some order and with repetitions.  A store that looks
rows up by membership gives the same rows, in its own order, for any two lists of the same ids.
Everything is computed from these rows: the sums of ratings too, whose order is that of the rows.
So nothing of a request is left in its result but the set of seeds, unless the cap cuts it.
-/

namespace MangaRecommender

/-- The ways to ask for recommendations. -/
inductive SeedSource
  | list (ids : List Int32)
  | owned (user : Uuid) (collection : Int32)

/-- The seeds that a source comes to. -/
def SeedSource.resolve (repository : Repository) (maxSeeds : Nat) : SeedSource → Traced Seeds
  | list ids => ⟨[], Seeds.ofList maxSeeds ids⟩
  | owned user collection => Seeds.ofCollection repository maxSeeds user collection

def Generator.forSource (repository : Repository) (limits : Limits) :
    SeedSource → Traced Recommendation
  | .list ids => forList repository limits ids
  | .owned user collection => forCollection repository limits user collection

theorem Generator.forSource_eq (repository : Repository) (limits : Limits) (source : SeedSource) :
    forSource repository limits source =
      source.resolve repository limits.maxSeeds >>= run repository limits := by
  cases source with
  | list ids => rfl
  | owned user collection => rfl

/-- The ids that are asked for: those of a list that can exist, or those of a collection that is
there. -/
def Repository.Denotes (repository : Repository) : SeedSource → Finset Int32 → Prop
  | .list given, ids => (given.filter fun id => decide (0 < id)).toFinset = ids
  | .owned user collection, ids =>
    ∃ given, repository.collectionManga user collection = .ok given ∧ given.toFinset = ids

/-- What is answered depends on which ids are asked for or excluded, and not on how they are
listed. -/
structure Repository.AnswersBySet (repository : Repository) : Prop where
  links : ∀ kind {first second : List Int32}, first.toFinset = second.toFinset →
    repository.links kind first = repository.links kind second
  ratings : ∀ {first second : List Int32}, first.toFinset = second.toFinset →
    repository.ratings first = repository.ratings second
  dates : ∀ {first second : List Int32}, first.toFinset = second.toFinset →
    repository.dates first = repository.dates second
  candidates : ∀ (query : CandidateQuery) {excluded : List Int32},
    query.excluded.toFinset = excluded.toFinset →
      repository.candidates query = repository.candidates { query with excluded }

/-- Tables are searched row by row, so that the ids are only compared with. -/
theorem Tables.answersBySet (tables : Tables) : (tables.repository .none).AnswersBySet := by
  have hcontains : ∀ {first second : List Int32}, first.toFinset = second.toFinset →
      ∀ id, first.contains id = second.contains id := by
    intro first second hset id
    rw [List.contains_eq_mem, List.contains_eq_mem]
    exact decide_eq_decide.2 (List.toFinset.ext_iff.1 hset id)
  constructor
  case links =>
    intro kind first second hset
    simp only [repository, hcontains hset]
  case ratings =>
    intro first second hset
    simp only [repository, hcontains hset]
  case dates =>
    intro first second hset
    simp only [repository, hcontains hset]
  case candidates =>
    intro query excluded hset
    have hqualifies : tables.qualifies query = tables.qualifies { query with excluded } := by
      funext row
      simp only [qualifies, hcontains hset]
    simp only [repository, candidates, hqualifies]

/-! ## The seeds of a source -/

/-- A list whose ids are no more than the cap is not cut. -/
theorem Seeds.capped_of_card_le {maxSeeds : Nat} {given : List Int32}
    (hfits : given.toFinset.card ≤ maxSeeds) :
    (capped maxSeeds given).ids.toFinset = given.toFinset ∧
      (capped maxSeeds given).summary = ⟨given.toFinset.card, given.toFinset.card, false⟩ := by
  have hset : (firstOccurrences id given).toFinset = given.toFinset := by
    ext wanted
    rw [List.mem_toFinset, List.mem_toFinset, mem_firstOccurrences]
  have hlength : (firstOccurrences id given).length = given.toFinset.card :=
    length_firstOccurrences given
  have hwhole : (firstOccurrences id given).take maxSeeds = firstOccurrences id given :=
    List.take_of_length_le (hlength.trans_le hfits)
  constructor
  · rw [capped, hwhole, hset]
  · simp only [summary, capped, hwhole, hlength, lt_irrefl, decide_false]

variable {repository : Repository} {limits : Limits} {ids : Finset Int32}

theorem SeedSource.resolve_of_denotes {source : SeedSource} (hsource : repository.Denotes source ids)
    (hsome : ids.Nonempty) (hfits : ids.card ≤ limits.maxSeeds) :
    ∃ seeds, (source.resolve repository limits.maxSeeds).result = .ok seeds ∧
      seeds.ids.toFinset = ids ∧ seeds.summary = ⟨ids.card, ids.card, false⟩ := by
  obtain ⟨given, failure, rfl, hresult⟩ : ∃ given failure, List.toFinset given = ids ∧
      (source.resolve repository limits.maxSeeds).result =
        (Seeds.capped limits.maxSeeds given).orElse failure := by
    cases source with
    | list given => exact ⟨_, _, hsource, rfl⟩
    | owned user collection =>
      obtain ⟨given, hgiven, hset⟩ := hsource
      refine ⟨given, .emptyCollection, hset, ?_⟩
      have hlookup : (repository.lookUpCollection user collection).result = .ok given := hgiven
      rw [resolve, Seeds.ofCollection, Traced.bind_of_ok hlookup]
  obtain ⟨hset, hsummary⟩ := Seeds.capped_of_card_le hfits
  refine ⟨_, hresult.trans ?_, hset, hsummary⟩
  have hids : (Seeds.capped limits.maxSeeds given).ids ≠ [] := by
    rw [← List.toFinset_nonempty_iff, hset]
    exact hsome
  rw [Seeds.orElse, Seeds.isEmpty, List.isEmpty_eq_false_iff.2 hids, if_neg Bool.false_ne_true]

/-! ## The run -/

namespace Generator

theorem seeds_of_run {seeds : Seeds} {recommendation : Recommendation}
    (hrun : (run repository limits seeds).result = .ok recommendation) :
    recommendation.seeds = seeds.summary := by
  obtain ⟨profile, -, hselect⟩ := Traced.result_bind_eq_ok.1 hrun
  obtain ⟨candidates, -, hrank⟩ := Traced.result_bind_eq_ok.1 hselect
  obtain ⟨items, -, hrecommendation⟩ := Traced.result_bind_eq_ok.1 hrank
  cases hrecommendation
  rfl

/-- Seeds of one set, however they are listed, have one result. -/
theorem run_refines_of_same_set (hset : repository.AnswersBySet) {first second : Seeds}
    (hids : first.ids.toFinset = second.ids.toFinset) (hsummary : first.summary = second.summary) :
    (run repository limits first).Refines (run repository limits second) := by
  apply Traced.Refines.bind
  · apply Profile.build_refines
    · exact fun kind rows hrows => (hset.links kind hids).symm.trans hrows
    · exact fun rows hrows => (hset.ratings hids).symm.trans hrows
    · exact fun rows hrows => (hset.dates hids).symm.trans hrows
  intro profile
  apply Traced.Refines.bind
  · apply Candidates.select_refines (List.toFinset.ext_iff.1 hids)
    exact fun rows hrows => (hset.candidates _ hids).symm.trans hrows
  intro candidates
  -- From here on nothing is asked about the seeds, and only their number is reported.
  apply (Traced.Refines.refl _).bind
  intro items
  rw [hsummary]
  exact .refl _

/-- Any two requests for one set of seeds, which is not too large, have the same items in the same
order, and all the ids of the set are counted and used. -/
theorem result_of_seed_set (hset : repository.AnswersBySet) (hrows : repository.AnswersRows)
    (limits : Limits) (hsome : ids.Nonempty) (hfits : ids.card ≤ limits.maxSeeds) :
    ∃ items, ∀ source, repository.Denotes source ids →
      (forSource repository limits source).result =
        .ok ⟨items, ⟨ids.card, ids.card, false⟩⟩ := by
  -- Some listing of the set stands for all of them.
  let listed : Seeds := ⟨ids.toList, ids.card⟩
  have hlisted : listed.summary = ⟨ids.card, ids.card, false⟩ := by
    simp only [Seeds.summary, listed, Finset.length_toList, lt_irrefl, decide_false]
  obtain ⟨⟨items, seeds⟩, hrun⟩ := exists_run_of_answersRows hrows limits listed
  obtain rfl : seeds = ⟨ids.card, ids.card, false⟩ := (seeds_of_run hrun).trans hlisted
  refine ⟨items, fun source hsource => ?_⟩
  obtain ⟨resolved, hresolved, hids, hsummary⟩ :=
    SeedSource.resolve_of_denotes hsource hsome hfits
  rw [forSource_eq, Traced.bind_of_ok hresolved]
  have hsame : listed.ids.toFinset = resolved.ids.toFinset := by
    rw [hids, Finset.toList_toFinset]
  exact run_refines_of_same_set hset hsame (hlisted.trans hsummary.symm) _ hrun

def collector : Uuid := ⟨3, by decide⟩

/-- Two seeds of one genre with differently rated manga, collected in descending order. -/
def collectedPair : Tables where
  manga := [⟨1, "First", some .nan, none, none⟩, ⟨2, "Second", some (.infinity true), none, none⟩,
    ⟨3, "Third", some (.infinity false), none, none⟩]
  links kind := if kind = .genre then [(2, 5), (1, 5), (3, 5)] else []
  collections := [⟨4, collector, [2, 1, 2]⟩]
  fixedCandidates := none

theorem result_of_seed_set_collectedPair :
    let store := collectedPair.repository .none
    store.AnswersBySet ∧ store.AnswersRows ∧ ({1, 2} : Finset Int32).Nonempty ∧
      ({1, 2} : Finset Int32).card ≤ 2 ∧
      ∃ items,
        (forSource store ⟨2, 9⟩ (.list [1, -7, 2, 2, 0, 1])).result = .ok ⟨items, ⟨2, 2, false⟩⟩ ∧
        (forSource store ⟨2, 9⟩ (.owned collector 4)).result = .ok ⟨items, ⟨2, 2, false⟩⟩ := by
  have hsome : ({1, 2} : Finset Int32).Nonempty := ⟨1, by decide⟩
  have hcard : ({1, 2} : Finset Int32).card = 2 := by decide
  obtain ⟨items, hitems⟩ := result_of_seed_set collectedPair.answersBySet collectedPair.answersRows
    ⟨2, 9⟩ hsome hcard.le
  rw [hcard] at hitems
  refine ⟨collectedPair.answersBySet, collectedPair.answersRows, hsome, hcard.le, items, ?_, ?_⟩
  · apply hitems
    show ([1, -7, 2, 2, 0, 1].filter fun id : Int32 => decide (0 < id)).toFinset = _
    decide
  · apply hitems
    exact ⟨[2, 1, 2], rfl, by decide⟩

end Generator

end MangaRecommender
