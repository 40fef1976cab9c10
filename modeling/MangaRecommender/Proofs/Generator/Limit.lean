import Mathlib
import MangaRecommender.Proofs.Generator.SeedSet
import MangaRecommender.Proofs.Generator.Selection
import MangaRecommender.Proofs.Score.Ranking
import MangaRecommender.Proofs.Score.Terms

/-!
# The limit on candidates

A lower limit keeps fewer rows and loads the attributes of fewer manga.  A manga is scored by its
own attributes alone, which are the same whatever other manga they are loaded with, and the order of
a ranking is not disturbed by leaving items out.  The rows that a limit keeps are the first in
order of id, so that the items under it are those under a higher one with the lowest ids.
-/

namespace MangaRecommender

/-! ## The candidates that are kept -/

variable {tables : Tables} {seeds : List Int32} {fewer more : Nat}

theorem Tables.firstRecommendable_eq_take (hle : fewer ≤ more) :
    tables.firstRecommendable seeds fewer = (tables.firstRecommendable seeds more).take fewer := by
  simp only [firstRecommendable, Int.toNat_natCast, List.take_take, min_eq_left hle]

theorem Tables.length_firstRecommendable_le (limit : Nat) :
    (tables.firstRecommendable seeds limit).length ≤ limit := by
  rw [firstRecommendable, Int.toNat_natCast]
  exact List.length_take_le _ _

theorem Tables.candidatesOf_eq_filter (hle : fewer ≤ more) :
    tables.candidatesOf seeds fewer = (tables.candidatesOf seeds more).filter fun row =>
      ((tables.firstRecommendable seeds fewer).map Manga.id).contains row.id := by
  have hbeginning := firstOccurrences_of_append Manga.id
    ((tables.firstRecommendable seeds more).take fewer)
    ((tables.firstRecommendable seeds more).drop fewer)
  rw [List.take_append_drop, ← firstRecommendable_eq_take hle] at hbeginning
  exact hbeginning.symm

/-- A row that is kept under the higher limit and comes no later in order of id than one that is
kept under the lower limit has an id that is kept under the lower one too. -/
theorem Tables.mem_first_of_le (hle : fewer ≤ more) {row other : Manga}
    (hrow : row ∈ tables.firstRecommendable seeds fewer)
    (hother : other ∈ tables.firstRecommendable seeds more) (hid : other.id ≤ row.id) :
    other.id ∈ (tables.firstRecommendable seeds fewer).map Manga.id := by
  have hordered : (tables.firstRecommendable seeds more).Pairwise
      fun first second => first.id ≤ second.id :=
    (pairwise_mergeSort_id _).sublist (List.take_sublist _ _)
  rw [firstRecommendable_eq_take hle] at hrow ⊢
  rw [← List.take_append_drop fewer (tables.firstRecommendable seeds more)] at hother hordered
  obtain hkept | hdropped := List.mem_append.1 hother
  · exact List.mem_map_of_mem hkept
  · -- Behind the cut no id is lower, so that one which is no higher is the same.
    have hbehind := (List.pairwise_append.1 hordered).2.2 row hrow other hdropped
    rw [Int32.le_antisymm hid hbehind]
    exact List.mem_map_of_mem hrow

/-! ## The attributes that are loaded -/

/-- The attributes of all manga. -/
def Tables.features (tables : Tables) : Features where
  genres := .ofLinks (tables.links .genre)
  tags := .ofLinks (tables.links .tag)
  demographics := .ofLinks (tables.links .demographic)
  authors := .ofLinks (tables.links .author)

namespace Score

theorem scored_featuresOf (tables : Tables) (profile : Profile) {ids : List Int32} {manga : Manga}
    (hmanga : manga.id ∈ ids) :
    scored (tables.featuresOf ids) profile manga = scored tables.features profile manga := by
  simp only [scored, details, AttributeIndex.sharesAny, Tables.featuresOf, Tables.features,
    AttributeIndex.attributesOf_filter hmanga]

theorem rankAll_featuresOf (tables : Tables) (profile : Profile) (candidates : List Manga) :
    rankAll (tables.featuresOf (candidates.map Manga.id)) profile candidates =
      rankAll tables.features profile candidates := by
  have hscored : candidates.map (scored (tables.featuresOf (candidates.map Manga.id)) profile) =
      candidates.map (scored tables.features profile) :=
    List.map_congr_left fun manga hmanga =>
      scored_featuresOf tables profile (List.mem_map_of_mem hmanga)
  exact congrArg (List.mergeSort · ranksBefore) hscored

end Score

/-! ## The items under two limits -/

namespace Generator

/-- The first recommendation is the part of the second one about some ids.  It has no more items
than the cap allows, and every item with an id as low as one of its own. -/
structure IsCut (ids : List Int32) (cap : Nat) (cut full : Recommendation) : Prop where
  items : cut.items = full.items.filter fun item => ids.contains item.id
  length_le : cut.items.length ≤ cap
  lowest : ∀ item ∈ cut.items, ∀ other ∈ full.items, other.id ≤ item.id → other ∈ cut.items
  seeds : cut.seeds = full.seeds

/-- What a run answers under a limit. -/
def recommendationUnder (tables : Tables) (seeds : Seeds) (limit : Int) : Recommendation where
  items := Score.rankAll tables.features (Profile.ofRows (tables.rowsOf seeds.ids))
    (tables.candidatesOf seeds.ids limit)
  seeds := seeds.summary

theorem result_run_eq_recommendationUnder (hfixed : tables.fixedCandidates = none) (limits : Limits)
    (seeds : Seeds) :
    (run (tables.repository .none) limits seeds).result =
      .ok (recommendationUnder tables seeds limits.maxCandidates) := by
  rw [result_run hfixed, Score.rankAll_featuresOf]
  rfl

theorem mem_first_of_mem_recommendationUnder {seeds : Seeds} {limit : Int} {item : ScoredManga}
    (hitem : item ∈ (recommendationUnder tables seeds limit).items) :
    ∃ row ∈ tables.firstRecommendable seeds.ids limit, row.id = item.id := by
  obtain ⟨row, hrow, rfl⟩ := Score.exists_row_of_mem_rankAll hitem
  exact ⟨row, mem_of_mem_firstOccurrences hrow, rfl⟩

theorem isCut_recommendationUnder (hle : fewer ≤ more) (seeds : Seeds) :
    IsCut ((tables.firstRecommendable seeds.ids fewer).map Manga.id) fewer
      (recommendationUnder tables seeds fewer) (recommendationUnder tables seeds more) := by
  have hitems : (recommendationUnder tables seeds fewer).items =
      (recommendationUnder tables seeds more).items.filter fun item =>
        ((tables.firstRecommendable seeds.ids fewer).map Manga.id).contains item.id := by
    simp only [recommendationUnder]
    rw [Tables.candidatesOf_eq_filter hle]
    exact Score.rankAll_filter _ _ (nodup_map_firstOccurrences Manga.id _) _
  refine ⟨hitems, ?_, ?_, rfl⟩
  · calc (recommendationUnder tables seeds fewer).items.length
        = (tables.candidatesOf seeds.ids fewer).length := by
          rw [recommendationUnder, (Score.rankAll_perm _ _ _).length_eq, List.length_map]
      _ ≤ (tables.firstRecommendable seeds.ids fewer).length :=
          (firstOccurrences_sublist Manga.id _).length_le
      _ ≤ fewer := tables.length_firstRecommendable_le fewer
  · intro item hitem other hother hid
    obtain ⟨row, hrow, hitem⟩ := mem_first_of_mem_recommendationUnder hitem
    obtain ⟨otherRow, hotherRow, hother'⟩ := mem_first_of_mem_recommendationUnder hother
    rw [hitems]
    refine List.mem_filter.2 ⟨hother, List.contains_iff_mem.2 ?_⟩
    rw [← hother']
    apply Tables.mem_first_of_le hle hrow hotherRow
    rw [hother', hitem]
    exact hid

/-- A lower limit cuts the answer to a request and changes nothing else in it; a request that is
refused is refused alike under every limit. -/
theorem lower_limit_cuts (tables : Tables) (hfixed : tables.fixedCandidates = none)
    (source : SeedSource) (maxSeeds : Nat) (hle : fewer ≤ more) :
    (∃ failure, ∀ limit, (forSource (tables.repository .none) ⟨maxSeeds, limit⟩ source).result =
      .error failure) ∨
    ∃ seeds cut full, (source.resolve (tables.repository .none) maxSeeds).result = .ok seeds ∧
      (forSource (tables.repository .none) ⟨maxSeeds, fewer⟩ source).result = .ok cut ∧
      (forSource (tables.repository .none) ⟨maxSeeds, more⟩ source).result = .ok full ∧
      IsCut ((tables.firstRecommendable seeds.ids fewer).map Manga.id) fewer cut full := by
  cases hresolved : (source.resolve (tables.repository .none) maxSeeds).result with
  | error failure =>
    refine .inl ⟨failure, fun limit => ?_⟩
    rw [forSource_eq, Traced.bind_of_error hresolved]
  | ok seeds =>
    have hanswer : ∀ limit : Int,
        (forSource (tables.repository .none) ⟨maxSeeds, limit⟩ source).result =
          .ok (recommendationUnder tables seeds limit) := by
      intro limit
      rw [forSource_eq, Traced.bind_of_ok hresolved]
      exact result_run_eq_recommendationUnder hfixed ⟨maxSeeds, limit⟩ seeds
    exact .inr ⟨seeds, _, _, rfl, hanswer fewer, hanswer more, isCut_recommendationUnder hle seeds⟩

/-- One seed, and three manga of its genre that are not listed in order of id. -/
def threeOfGenre : Tables where
  manga := [⟨4, "Fourth", some .nan, none, none⟩, ⟨1, "First", none, none, none⟩,
    ⟨2, "Second", some .nan, none, none⟩, ⟨3, "Third", some .nan, none, none⟩]
  links kind := if kind = .genre then [(3, 5), (1, 5), (4, 5), (2, 5)] else []
  collections := []
  fixedCandidates := none

theorem lower_limit_cuts_threeOfGenre :
    threeOfGenre.fixedCandidates = none ∧ 2 ≤ 9 ∧
      ∃ cut full,
        (forSource (threeOfGenre.repository .none) ⟨1, 2⟩ (.list [1])).result = .ok cut ∧
        (forSource (threeOfGenre.repository .none) ⟨1, 9⟩ (.list [1])).result = .ok full ∧
        IsCut ((threeOfGenre.firstRecommendable [1] 2).map Manga.id) 2 cut full := by
  have hresolved :
      (SeedSource.resolve (threeOfGenre.repository .none) 1 (.list [1])).result =
        .ok ⟨[1], 1⟩ := rfl
  refine ⟨rfl, by decide, ?_⟩
  obtain ⟨failure, hrefused⟩ | ⟨seeds, cut, full, hseeds, hcut, hfull, hisCut⟩ :=
    lower_limit_cuts threeOfGenre rfl (.list [1]) 1 (show 2 ≤ 9 by decide)
  · obtain ⟨items, hanswered⟩ := exists_run_of_answersRows threeOfGenre.answersRows ⟨1, 2⟩ ⟨[1], 1⟩
    cases (hrefused 2).symm.trans hanswered
  · cases hresolved.symm.trans hseeds
    exact ⟨cut, full, hcut, hfull, hisCut⟩

end Generator

end MangaRecommender
