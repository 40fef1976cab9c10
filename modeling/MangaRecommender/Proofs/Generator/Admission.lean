import Mathlib
import MangaRecommender.Proofs.Generator.Scores
import MangaRecommender.Proofs.Generator.Stages
import MangaRecommender.Proofs.Score.Ranking

/-!
# Rows from a store that keeps no rule

A store may answer the query for candidates with any rows: with seeds, with manga that have no
rating, with one manga several times, in any order.  The items are the same as if it had kept the
rule.  No seed and no unrated manga comes through, and every other id that has a rated row comes
through once, as the first rated row of it says; an unrated row in front does not stand in its way.
-/

namespace MangaRecommender

/-- The first of the rows about a manga that has a rating. -/
def firstRated? (rows : List Manga) (id : Int32) : Option Manga :=
  rows.find? fun row => row.rating.isSome && row.id == id

/-- The items are those of the manga outside the seeds that have a rated row, one for each. -/
structure AreAdmitted (seeds : List Int32) (rows : List Manga) (items : List ScoredManga) :
    Prop where
  distinct : (items.map ScoredManga.id).Nodup
  unseeded : ∀ seed ∈ seeds, seed ∉ items.map ScoredManga.id
  rated : ∀ item ∈ items, item.rating.isSome = true
  /-- No manga is lost that a rated row is about. -/
  complete : ∀ row ∈ rows, row.rating.isSome = true → row.id ∉ seeds →
    ∃! item, item ∈ items ∧ item.id = row.id
  /-- An item says what the first rated row of its manga says. -/
  first : ∀ item ∈ items, ∃ row, firstRated? rows item.id = some row ∧
    item.title = row.title ∧ item.rating = row.rating ∧ item.cover = row.cover

section Ranked

variable {seeds : List Int32} {rows : List Manga} {features : Features} {profile : Profile}

/-- The ids that are admitted are those of the rated rows outside the seeds. -/
theorem Candidates.mem_map_id_admissible {id : Int32} :
    id ∈ (admissible seeds rows).map Manga.id ↔
      id ∉ seeds ∧ ∃ row ∈ rows, row.rating.isSome = true ∧ row.id = id := by
  rw [admissible, mem_map_firstOccurrences, List.mem_map]
  simp only [List.mem_filter, isAdmissible, Bool.and_eq_true, Bool.not_eq_true',
    List.contains_eq_mem, decide_eq_false_iff_not]
  constructor
  · rintro ⟨row, ⟨hrow, hrated, hseed⟩, rfl⟩
    exact ⟨hseed, row, hrow, hrated, rfl⟩
  · rintro ⟨hseed, row, hrow, hrated, rfl⟩
    exact ⟨row, ⟨hrow, hrated, hseed⟩, rfl⟩

theorem areAdmitted_rankAll :
    AreAdmitted seeds rows (Score.rankAll features profile (Candidates.admissible seeds rows)) := by
  have hids := Score.map_id_rankAll features profile (Candidates.admissible seeds rows)
  have hdistinct := hids.nodup_iff.2
    (nodup_map_firstOccurrences Manga.id (rows.filter (Candidates.isAdmissible seeds)))
  have hfirst : ∀ item ∈ Score.rankAll features profile (Candidates.admissible seeds rows),
      ∃ row, firstRated? rows row.id = some row ∧ item = Score.scored features profile row := by
    intro item hitem
    obtain ⟨row, hrow, rfl⟩ := Score.exists_row_of_mem_rankAll hitem
    exact ⟨row, (Candidates.find?_of_mem_admissible hrow).2, rfl⟩
  constructor
  case distinct => exact hdistinct
  case unseeded =>
    intro seed hseed hitem
    exact (Candidates.mem_map_id_admissible.1 (hids.mem_iff.1 hitem)).1 hseed
  case rated =>
    intro item hitem
    obtain ⟨row, hrow, rfl⟩ := hfirst item hitem
    have hrated := List.find?_some hrow
    rw [Bool.and_eq_true] at hrated
    exact hrated.1
  case complete =>
    intro row hrow hrated hseed
    have hmem : row.id ∈ (Candidates.admissible seeds rows).map Manga.id :=
      Candidates.mem_map_id_admissible.2 ⟨hseed, row, hrow, hrated, rfl⟩
    obtain ⟨item, hitem, hid⟩ := List.mem_map.1 (hids.mem_iff.2 hmem)
    refine ⟨item, ⟨hitem, hid⟩, ?_⟩
    rintro other ⟨hother, hsame⟩
    exact List.inj_on_of_nodup_map hdistinct hother hitem (hsame.trans hid.symm)
  case first =>
    intro item hitem
    obtain ⟨row, hrow, rfl⟩ := hfirst item hitem
    exact ⟨row, hrow, rfl, rfl, rfl⟩

end Ranked

namespace Generator

variable {repository : Repository} {limits : Limits}

theorem rankCandidates_eq_ok {profile : Profile} {candidates : List Manga}
    {items : List ScoredManga}
    (hitems : (rankCandidates repository profile candidates).result = .ok items) :
    ∃ features, items = Score.rankAll features profile candidates := by
  rw [rankCandidates] at hitems
  split at hitems
  · next hnone =>
    cases hitems
    rw [List.isEmpty_iff.1 hnone]
    exact ⟨.empty, (List.perm_nil.1 (Score.rankAll_perm .empty profile [])).symm⟩
  · obtain ⟨features, -, hranked⟩ := Traced.result_bind_eq_ok.1 hitems
    cases hranked
    exact ⟨features, rfl⟩

/-- A run whose profile has something to find candidates by ranks what it admits of the rows. -/
theorem areAdmitted_of_run {seeds : Seeds} {profile : Profile} {rows : List Manga}
    {recommendation : Recommendation} (hprofile : HasProfile repository seeds.ids profile)
    (hrows : repository.candidates
      (Candidates.query seeds.ids profile limits.maxCandidates) = .ok rows)
    (hrun : (run repository limits seeds).result = .ok recommendation) :
    AreAdmitted seeds.ids rows recommendation.items := by
  obtain ⟨hbuilt, hclassifiable⟩ := hprofile
  rw [run, Traced.bind_of_ok hbuilt] at hrun
  have hselect := Candidates.select_of_classifiable repository seeds.ids hclassifiable
    limits.maxCandidates
  rw [hrows] at hselect
  rw [hselect, Traced.bind_of_ok rfl] at hrun
  obtain ⟨items, hitems, hrecommendation⟩ := Traced.result_bind_eq_ok.1 hrun
  obtain ⟨features, rfl⟩ := rankCandidates_eq_ok hitems
  cases hrecommendation
  exact areAdmitted_rankAll

/-- Whatever rows a store answers the query for candidates with, a list or a collection whose seeds
have a genre, a tag or a demographic is answered if no lookup fails, and its items are those of
the rated manga among the rows that are no seeds, each once and as its first rated row says. -/
theorem items_admitted_of_any_rows (repository : Repository) (limits : Limits) (seeds : Seeds)
    (profile : Profile) (hprofile : HasProfile repository seeds.ids profile) (rows : List Manga)
    (hrows : repository.candidates
      (Candidates.query seeds.ids profile limits.maxCandidates) = .ok rows) :
    (∀ ids, Seeds.ofList limits.maxSeeds ids = .ok seeds →
      (∀ lookup ∈ (forList repository limits ids).lookups, repository.failure? lookup = none) →
      ∃ recommendation, (forList repository limits ids).result = .ok recommendation ∧
        AreAdmitted seeds.ids rows recommendation.items) ∧
    ∀ user collection,
      (Seeds.ofCollection repository limits.maxSeeds user collection).result = .ok seeds →
      (∀ lookup ∈ (forCollection repository limits user collection).lookups,
        repository.failure? lookup = none) →
      ∃ recommendation, (forCollection repository limits user collection).result =
          .ok recommendation ∧
        AreAdmitted seeds.ids rows recommendation.items := by
  have hends : (run repository limits seeds).EndsAtFirstFailure repository :=
    endsAtFirstFailure_run limits seeds
  constructor
  · intro ids hseeds hanswered
    have hresolved : (⟨[], Seeds.ofList limits.maxSeeds ids⟩ : Traced Seeds).result = .ok seeds :=
      hseeds
    rw [forList, Traced.bind_of_ok hresolved] at hanswered ⊢
    obtain ⟨recommendation, hrun⟩ := hends.ok_iff.2 fun lookup hlookup =>
      hanswered lookup (List.mem_append_right _ hlookup)
    exact ⟨recommendation, hrun, areAdmitted_of_run hprofile hrows hrun⟩
  · intro user collection hseeds hanswered
    rw [forCollection, Traced.bind_of_ok hseeds] at hanswered ⊢
    obtain ⟨recommendation, hrun⟩ := hends.ok_iff.2 fun lookup hlookup =>
      hanswered lookup (List.mem_append_right _ hlookup)
    exact ⟨recommendation, hrun, areAdmitted_of_run hprofile hrows hrun⟩

/-! ## An unruly store -/

/-- Rows that nobody asked for: one seed, one manga without a rating, and one that is unrated in
its first row and rated differently in the next two. -/
def unrulyRows : List Manga :=
  [⟨2, "Unrated", none, none, none⟩, ⟨1, "Seed", some (.ofNat 9), none, none⟩,
    ⟨3, "Third", none, none, none⟩, ⟨2, "Rated", some (.ofNat 7), none, some "cover"⟩,
    ⟨2, "Again", some (.ofNat 8), none, none⟩]

def unrulyStore : Repository := { repeatedLinks with candidates := fun _ => .ok unrulyRows }

def unrulyProfile : Profile :=
  .ofRows ⟨[(1, 5), (1, 6), (1, 5)], [(1, 5), (1, 6), (1, 5)], [(1, 5), (1, 6), (1, 5)],
    [(1, 5), (1, 6), (1, 5)], [], []⟩

theorem items_admitted_of_any_rows_unrulyStore :
    HasProfile unrulyStore [1] unrulyProfile ∧
      unrulyStore.candidates (Candidates.query [1] unrulyProfile 1) = .ok unrulyRows ∧
      Seeds.ofList 1 [1, 4] = .ok ⟨[1], 2⟩ ∧
      (∀ lookup ∈ (forList unrulyStore ⟨1, 1⟩ [1, 4]).lookups,
        unrulyStore.failure? lookup = none) ∧
      ∃ recommendation, (forList unrulyStore ⟨1, 1⟩ [1, 4]).result = .ok recommendation ∧
        AreAdmitted [1] unrulyRows recommendation.items ∧
        ∃ item ∈ recommendation.items, item.id = 2 ∧ item.title = "Rated" := by
  have hprofile : HasProfile unrulyStore [1] unrulyProfile := ⟨rfl, by decide⟩
  have hseeds : Seeds.ofList 1 [1, 4] = .ok ⟨[1], 2⟩ := rfl
  have hanswered : ∀ lookup, unrulyStore.failure? lookup = none := by
    rintro (_ | _ | _ | _ | _ | _ | _) <;> rfl
  obtain ⟨recommendation, hresult, hadmitted⟩ :=
    (items_admitted_of_any_rows unrulyStore ⟨1, 1⟩ ⟨[1], 2⟩ unrulyProfile hprofile unrulyRows
      rfl).1 [1, 4] hseeds fun lookup _ => hanswered lookup
  obtain ⟨item, ⟨hitem, hid⟩, -⟩ := hadmitted.complete ⟨2, "Again", some (.ofNat 8), none, none⟩
    (by simp [unrulyRows]) rfl (by decide)
  obtain ⟨row, hrow, htitle, -⟩ := hadmitted.first item hitem
  have hfirst : firstRated? unrulyRows 2 =
      some ⟨2, "Rated", some (.ofNat 7), none, some "cover"⟩ := rfl
  rw [hid, hfirst] at hrow
  cases hrow
  exact ⟨hprofile, rfl, hseeds, fun lookup _ => hanswered lookup, recommendation, hresult,
    hadmitted, item, hitem, hid, htitle⟩

end Generator

end MangaRecommender
