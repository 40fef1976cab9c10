import Mathlib
import MangaRecommender.Generator
import MangaRecommender.Proofs.Catalogue.Traced
import MangaRecommender.Proofs.Profile.Frequencies
import MangaRecommender.Proofs.Score.Ranking

/-!
# Which manga are recommended

A manga can be recommended if it is rated, is no seed that is used, and shares a genre, a tag or a
demographic with such a seed.  The generator finds these manga in roundabout ways: it counts the
attributes of the seeds, asks for rows by the keys of the counts, cuts the rows to the limit and
filters them again.  None of this changes the outcome, which is the first rows in order of id.
-/

namespace MangaRecommender

namespace Tables

variable (tables : Tables) (seeds : List Int32)

/-- The manga is linked to an attribute that a seed is linked to as well. -/
def SharesAttribute (kind : AttributeKind) (manga : Int32) : Prop :=
  ∃ link ∈ tables.links kind, link.1 = manga ∧ ∃ seed ∈ seeds, (seed, link.2) ∈ tables.links kind

instance (kind : AttributeKind) (manga : Int32) :
    Decidable (tables.SharesAttribute seeds kind manga) :=
  inferInstanceAs (Decidable (∃ link ∈ tables.links kind, link.1 = manga ∧
    ∃ seed ∈ seeds, (seed, link.2) ∈ tables.links kind))

/-- The row is rated, is none of the seeds, and shares a genre, a tag or a demographic with one.
Shared authors do not count. -/
def IsRecommendable (row : Manga) : Prop :=
  row.rating.isSome = true ∧ row.id ∉ seeds ∧
    (tables.SharesAttribute seeds .genre row.id ∨ tables.SharesAttribute seeds .tag row.id ∨
      tables.SharesAttribute seeds .demographic row.id)

instance (row : Manga) : Decidable (tables.IsRecommendable seeds row) :=
  inferInstanceAs (Decidable (_ ∧ _))

/-- The rows that can be recommended, in the order of the table. -/
def recommendable : List Manga :=
  tables.manga.filter fun row => decide (tables.IsRecommendable seeds row)

/-- The first of them in order of id. -/
def firstRecommendable (limit : Int) : List Manga :=
  ((tables.recommendable seeds).mergeSort fun left right =>
    decide (left.id ≤ right.id)).take limit.toNat

end Tables

variable {tables : Tables} {seeds : List Int32}

/-! ## The profile of the seeds -/

/-- The rows about the seeds. -/
def Tables.rowsOf (tables : Tables) (seeds : List Int32) : Profile.Rows where
  genres := (tables.links .genre).filter fun link => seeds.contains link.1
  tags := (tables.links .tag).filter fun link => seeds.contains link.1
  demographics := (tables.links .demographic).filter fun link => seeds.contains link.1
  authors := (tables.links .author).filter fun link => seeds.contains link.1
  ratings := (tables.manga.filter fun row => seeds.contains row.id).map fun row =>
    (row.id, row.rating)
  dates := (tables.manga.filter fun row => seeds.contains row.id).map fun row =>
    (row.id, row.published)

theorem Profile.result_build (tables : Tables) (seeds : List Int32) :
    (Profile.build (tables.repository .none) seeds).result =
      .ok (Profile.ofRows (tables.rowsOf seeds)) := rfl

/-- The attributes of one kind among the seeds, with their counts. -/
def Tables.seedAttributes (tables : Tables) (seeds : List Int32) (kind : AttributeKind) :
    Frequencies :=
  .ofList (((tables.links kind).filter fun link => seeds.contains link.1).map Prod.snd)

theorem mem_seedAttributes {kind : AttributeKind} {wanted : Int32} :
    wanted ∈ (tables.seedAttributes seeds kind).ids ↔
      ∃ seed ∈ seeds, (seed, wanted) ∈ tables.links kind := by
  rw [Tables.seedAttributes, Frequencies.mem_ids_ofList]
  constructor
  · intro hmem
    obtain ⟨⟨seed, _⟩, hlink, rfl⟩ := List.mem_map.1 hmem
    obtain ⟨hlink, hseed⟩ := List.mem_filter.1 hlink
    exact ⟨seed, List.contains_iff_mem.1 hseed, hlink⟩
  · rintro ⟨seed, hseed, hlink⟩
    exact List.mem_map.2 ⟨(seed, wanted),
      List.mem_filter.2 ⟨hlink, List.contains_iff_mem.2 hseed⟩, rfl⟩

/-! ## The rows that are asked for -/

/-- The query for candidates that the profile of the seeds leads to. -/
def Tables.seedQuery (tables : Tables) (seeds : List Int32) (limit : Int) : CandidateQuery where
  excluded := seeds
  genres := (tables.seedAttributes seeds .genre).ids
  tags := (tables.seedAttributes seeds .tag).ids
  demographics := (tables.seedAttributes seeds .demographic).ids
  limit := limit

theorem query_ofRows (limit : Int) :
    Candidates.query seeds (Profile.ofRows (tables.rowsOf seeds)) limit =
      tables.seedQuery seeds limit := rfl

theorem Tables.isLinked_eq_true_iff {kind : AttributeKind} {attributes : List Int32} {id : Int32} :
    tables.isLinked kind attributes id = true ↔
      ∃ link ∈ tables.links kind, link.1 = id ∧ link.2 ∈ attributes := by
  simp only [isLinked, List.any_eq_true, Bool.and_eq_true, beq_iff_eq, List.contains_iff_mem]

/-- To be linked to a counted attribute is to share it with a seed. -/
theorem Tables.isLinked_iff {kind : AttributeKind} {manga : Int32} :
    tables.isLinked kind (tables.seedAttributes seeds kind).ids manga = true ↔
      tables.SharesAttribute seeds kind manga := by
  simp only [isLinked_eq_true_iff, mem_seedAttributes, SharesAttribute]

theorem Tables.qualifies_iff {limit : Int} {row : Manga} :
    tables.qualifies (tables.seedQuery seeds limit) row = true ↔
      tables.IsRecommendable seeds row := by
  simp only [qualifies, seedQuery, Bool.and_eq_true, Bool.or_eq_true, isLinked_iff,
    Bool.not_eq_true', List.contains_eq_mem, decide_eq_false_iff_not, IsRecommendable, or_assoc]
  exact and_assoc.trans and_left_comm

/-- The store is asked for the first recommendable rows in order of id. -/
theorem Tables.candidates_seedQuery (hfixed : tables.fixedCandidates = none) (limit : Int) :
    tables.candidates (tables.seedQuery seeds limit) = tables.firstRecommendable seeds limit := by
  have hfilter : tables.manga.filter (tables.qualifies (tables.seedQuery seeds limit)) =
      tables.recommendable seeds := by
    apply List.filter_congr
    intro row _
    rw [Bool.eq_iff_iff, qualifies_iff, decide_eq_true_iff]
  simp only [candidates, hfixed, hfilter]
  rfl

/-- A query without attributes has no answer, so that it need not be asked. -/
theorem Tables.recommendable_eq_nil {limit : Int}
    (hnone : (tables.seedQuery seeds limit).hasNoAttributes = true) :
    tables.recommendable seeds = [] := by
  simp only [CandidateQuery.hasNoAttributes, seedQuery, Bool.and_eq_true,
    List.isEmpty_iff] at hnone
  obtain ⟨⟨hgenres, htags⟩, hdemographics⟩ := hnone
  have hshares : ∀ kind manga, (tables.seedAttributes seeds kind).ids = [] →
      ¬tables.SharesAttribute seeds kind manga := by
    rintro kind manga hids ⟨link, -, -, hshared⟩
    rw [← mem_seedAttributes, hids] at hshared
    exact List.not_mem_nil hshared
  apply List.filter_eq_nil_iff.2
  intro row _ hrow
  rcases (of_decide_eq_true hrow).2.2 with hgenre | htag | hdemographic
  · exact hshares .genre row.id hgenres hgenre
  · exact hshares .tag row.id htags htag
  · exact hshares .demographic row.id hdemographics hdemographic

/-! ## The rows that are kept -/

/-- The candidates that some seeds have: the first recommendable rows, each id once. -/
def Tables.candidatesOf (tables : Tables) (seeds : List Int32) (limit : Int) : List Manga :=
  firstOccurrences Manga.id (tables.firstRecommendable seeds limit)

theorem Tables.isRecommendable_of_mem_first {limit : Int} {row : Manga}
    (hrow : row ∈ tables.firstRecommendable seeds limit) : tables.IsRecommendable seeds row := by
  have hmem := List.mem_mergeSort.1 (List.mem_of_mem_take hrow)
  exact of_decide_eq_true (List.mem_filter.1 hmem).2

/-- Filtering again takes no recommendable row away. -/
theorem Candidates.admissible_firstRecommendable (limit : Int) :
    admissible seeds (tables.firstRecommendable seeds limit) =
      tables.candidatesOf seeds limit := by
  have hkept : (tables.firstRecommendable seeds limit).filter (isAdmissible seeds) =
      tables.firstRecommendable seeds limit := by
    apply List.filter_eq_self.2
    intro row hrow
    obtain ⟨hrated, hseed, -⟩ := Tables.isRecommendable_of_mem_first hrow
    simp [isAdmissible, hrated, hseed]
  rw [admissible, hkept, Tables.candidatesOf]

theorem Candidates.result_select (hfixed : tables.fixedCandidates = none) (limit : Int) :
    (select (tables.repository .none) seeds (Profile.ofRows (tables.rowsOf seeds)) limit).result =
      .ok (tables.candidatesOf seeds limit) := by
  rw [← admissible_firstRecommendable]
  simp only [select]
  split
  · next hnone =>
    rw [query_ofRows] at hnone
    rw [Tables.firstRecommendable, Tables.recommendable_eq_nil hnone, List.mergeSort_nil,
      List.take_nil]
    rfl
  · rw [query_ofRows, ← Tables.candidates_seedQuery hfixed limit]
    rfl

/-! ## The ranking -/

/-- The attributes that are loaded for some manga. -/
def Tables.featuresOf (tables : Tables) (ids : List Int32) : Features where
  genres := .ofLinks ((tables.links .genre).filter fun link => ids.contains link.1)
  tags := .ofLinks ((tables.links .tag).filter fun link => ids.contains link.1)
  demographics := .ofLinks ((tables.links .demographic).filter fun link => ids.contains link.1)
  authors := .ofLinks ((tables.links .author).filter fun link => ids.contains link.1)

theorem Features.result_load (tables : Tables) {ids : List Int32} (hids : ids ≠ []) :
    (Features.load (tables.repository .none) ids).result = .ok (tables.featuresOf ids) := by
  rw [load, if_neg (by simpa using hids)]
  rfl

theorem Generator.result_rankCandidates (tables : Tables) (profile : Profile)
    (candidates : List Manga) :
    (rankCandidates (tables.repository .none) profile candidates).result =
      .ok (Score.rankAll (tables.featuresOf (candidates.map Manga.id)) profile candidates) := by
  by_cases hcandidates : candidates = []
  · subst hcandidates
    rw [Score.rankAll, List.map_nil, List.mergeSort_nil]
    rfl
  · have hids : candidates.map Manga.id ≠ [] := by simpa using hcandidates
    rw [rankCandidates, if_neg (by simpa using hcandidates),
      Traced.bind_of_ok (Features.result_load tables hids)]
    rfl

/-- Without failing calls a run has a result, which ranks the rows that were kept. -/
theorem Generator.result_run (hfixed : tables.fixedCandidates = none) (limits : Limits)
    (seeds : Seeds) :
    (run (tables.repository .none) limits seeds).result =
      .ok ⟨Score.rankAll
        (tables.featuresOf ((tables.candidatesOf seeds.ids limits.maxCandidates).map Manga.id))
        (Profile.ofRows (tables.rowsOf seeds.ids))
        (tables.candidatesOf seeds.ids limits.maxCandidates), seeds.summary⟩ := by
  rw [run, Traced.bind_of_ok (Profile.result_build tables seeds.ids),
    Traced.bind_of_ok (Candidates.result_select hfixed limits.maxCandidates),
    Traced.bind_of_ok (result_rankCandidates tables _ _)]
  rfl

/-! ## The items -/

/-- Rows in ascending order of id have the same ids in every arrangement. -/
theorem map_id_eq_of_perm {left right : List Manga} (hperm : left.Perm right)
    (hleft : left.Pairwise fun first second => first.id ≤ second.id)
    (hright : right.Pairwise fun first second => first.id ≤ second.id) :
    left.map Manga.id = right.map Manga.id := by
  apply (hperm.map Manga.id).eq_of_pairwise
  · exact fun first second _ _ => Int32.le_antisymm
  · exact List.pairwise_map.2 hleft
  · exact List.pairwise_map.2 hright

theorem pairwise_mergeSort_id (rows : List Manga) :
    (rows.mergeSort fun left right => decide (left.id ≤ right.id)).Pairwise
      fun first second => first.id ≤ second.id := by
  refine (List.pairwise_mergeSort ?_ ?_ rows).imp of_decide_eq_true
  · intro first second third hfirst hsecond
    exact decide_eq_true (Int32.le_trans (of_decide_eq_true hfirst) (of_decide_eq_true hsecond))
  · intro first second
    simpa using Int32.le_total first.id second.id

/-- Any arrangement of the recommendable rows in order of id begins with the same ids. -/
theorem Tables.map_id_firstRecommendable {ordered : List Manga}
    (hperm : ordered.Perm (tables.recommendable seeds))
    (hordered : ordered.Pairwise fun first second => first.id ≤ second.id) (limit : Int) :
    (tables.firstRecommendable seeds limit).map Manga.id =
      (ordered.take limit.toNat).map Manga.id := by
  have hids := map_id_eq_of_perm ((List.mergeSort_perm _ _).trans hperm.symm)
    (pairwise_mergeSort_id (tables.recommendable seeds)) hordered
  rw [firstRecommendable, List.map_take, List.map_take, hids]

namespace Generator

/-- The answer has exactly the first of the ordered rows, each id once: none is missing if all of
them fit, and no seed is among them. -/
def Selects (tables : Tables) (limits : Limits) (seeds : List Int32) (ordered : List Manga)
    (answer : Except Failure Recommendation) : Prop :=
  ∃ recommendation, answer = .ok recommendation ∧
    (recommendation.items.map ScoredManga.id).Nodup ∧
    (∀ id, id ∈ recommendation.items.map ScoredManga.id ↔
      id ∈ (ordered.take limits.maxCandidates.toNat).map Manga.id) ∧
    (ordered.length ≤ limits.maxCandidates.toNat → ∀ row ∈ tables.manga,
      tables.IsRecommendable seeds row → row.id ∈ recommendation.items.map ScoredManga.id) ∧
    ∀ seed ∈ seeds, seed ∉ recommendation.items.map ScoredManga.id

theorem selects_run (hfixed : tables.fixedCandidates = none) (limits : Limits)
    (seeds : Seeds) {ordered : List Manga} (hperm : ordered.Perm (tables.recommendable seeds.ids))
    (hordered : ordered.Pairwise fun first second => first.id ≤ second.id) :
    Selects tables limits seeds.ids ordered
      (run (tables.repository .none) limits seeds).result := by
  obtain ⟨recommendation, hresult, hitems⟩ : ∃ recommendation,
      (run (tables.repository .none) limits seeds).result = .ok recommendation ∧
        (recommendation.items.map ScoredManga.id).Perm
          ((tables.candidatesOf seeds.ids limits.maxCandidates).map Manga.id) :=
    ⟨_, result_run hfixed limits seeds, Score.map_id_rankAll _ _ _⟩
  have hnodup := hitems.nodup_iff.2 (nodup_map_firstOccurrences Manga.id _)
  have hmem : ∀ id, id ∈ recommendation.items.map ScoredManga.id ↔
      id ∈ (tables.firstRecommendable seeds.ids limits.maxCandidates).map Manga.id :=
    fun id => hitems.mem_iff.trans mem_map_firstOccurrences
  have hids := Tables.map_id_firstRecommendable hperm hordered limits.maxCandidates
  refine ⟨recommendation, hresult, hnodup, fun id => hids ▸ hmem id, ?_, ?_⟩
  · intro hfits row hrow hrecommend
    rw [hmem, hids, List.take_of_length_le hfits]
    exact List.mem_map_of_mem
      (hperm.mem_iff.2 (List.mem_filter.2 ⟨hrow, decide_eq_true hrecommend⟩))
  · intro seed hseed hitem
    obtain ⟨row, hrow, rfl⟩ := List.mem_map.1 ((hmem seed).1 hitem)
    exact (Tables.isRecommendable_of_mem_first hrow).2.1 hseed

/-- Whatever the tables hold, a list or a collection that resolves to seeds is answered with the
ids of the first recommendable rows in order of id, as many as the limit allows.  Only the seeds
that are used are left out: one that was cut off is a manga like any other. -/
theorem items_select_recommendable (tables : Tables) (hfixed : tables.fixedCandidates = none)
    (limits : Limits) (seeds : Seeds) (ordered : List Manga)
    (hperm : ordered.Perm (tables.recommendable seeds.ids))
    (hordered : ordered.Pairwise fun first second => first.id ≤ second.id) :
    (∀ ids, Seeds.ofList limits.maxSeeds ids = .ok seeds →
      Selects tables limits seeds.ids ordered
        (forList (tables.repository .none) limits ids).result) ∧
    ∀ user collection,
      (Seeds.ofCollection (tables.repository .none) limits.maxSeeds user collection).result =
          .ok seeds →
      Selects tables limits seeds.ids ordered
        (forCollection (tables.repository .none) limits user collection).result := by
  have hrun := selects_run hfixed limits seeds hperm hordered
  constructor
  · intro ids hseeds
    have hresolved : (⟨[], Seeds.ofList limits.maxSeeds ids⟩ : Traced Seeds).result = .ok seeds :=
      hseeds
    rw [forList, Traced.bind_of_ok hresolved]
    exact hrun
  · intro user collection hseeds
    rw [forCollection, Traced.bind_of_ok hseeds]
    exact hrun

/-! ## A seed that is cut off -/

/-- Two rated manga of one genre, the second one in two rows. -/
def repeatedRow : Tables where
  manga := [⟨2, "Second", some .nan, none, none⟩, ⟨1, "First", some .nan, none, none⟩,
    ⟨2, "Again", some .nan, none, none⟩]
  links kind := if kind = .genre then [(1, 5), (2, 5)] else []
  collections := []
  fixedCandidates := none

theorem items_select_recommendable_repeatedRow :
    repeatedRow.fixedCandidates = none ∧
      (repeatedRow.recommendable [1]).Perm (repeatedRow.recommendable [1]) ∧
      (repeatedRow.recommendable [1]).Pairwise (fun first second => first.id ≤ second.id) ∧
      Seeds.ofList 1 [1, 2, 1, -3] = .ok ⟨[1], 2⟩ ∧
      ∃ recommendation,
        (forList (repeatedRow.repository .none) ⟨1, 5⟩ [1, 2, 1, -3]).result =
          .ok recommendation ∧
        2 ∈ recommendation.items.map ScoredManga.id ∧
        1 ∉ recommendation.items.map ScoredManga.id := by
  have hordered : (repeatedRow.recommendable [1]).Pairwise
      (fun first second => first.id ≤ second.id) := by decide
  obtain ⟨recommendation, hresult, -, hmem, -, hseed⟩ :=
    (items_select_recommendable repeatedRow rfl ⟨1, 5⟩ ⟨[1], 2⟩ _ (.refl _) hordered).1
      [1, 2, 1, -3] rfl
  refine ⟨rfl, .refl _, hordered, rfl, recommendation, hresult, (hmem 2).2 ?_, hseed 1 ?_⟩
  · decide
  · decide

end Generator

end MangaRecommender
