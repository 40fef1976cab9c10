import Mathlib
import MangaRecommender.Proofs.Generator.SeedSet
import MangaRecommender.Proofs.Generator.Selection

/-!
# The query for candidates

A request that comes to seeds asks for candidates once at most.  Whether it asks is decided twice,
by the counts of the profile and by the lists of the query that is made of them, and both times it
is the tables that decide: some seed has a genre, a tag or a demographic, or none has.  The query
itself says no more and no less about the seeds than these relations do, and an id that the cap cut
off is not mentioned in it.
-/

namespace MangaRecommender

namespace Tables

variable (tables : Tables) (seeds : List Int32)

/-- The seed is linked to the attribute. -/
def HasAttribute (kind : AttributeKind) (wanted : Int32) : Prop :=
  ∃ seed ∈ seeds, (seed, wanted) ∈ tables.links kind

/-- Some seed has a genre, a tag or a demographic; authors classify nothing. -/
def AreClassified : Prop :=
  ∃ kind ≠ .author, ∃ wanted, tables.HasAttribute seeds kind wanted

/-- The attributes that seeds have, each once, in ascending order. -/
structure ListsAttributes (kind : AttributeKind) (attributes : List Int32) : Prop where
  ascending : attributes.Pairwise (· < ·)
  mem_iff : ∀ wanted, wanted ∈ attributes ↔ tables.HasAttribute seeds kind wanted

end Tables

variable {tables : Tables} {seeds : List Int32}

/-! ## The attributes of the seeds -/

theorem Tables.listsAttributes (tables : Tables) (seeds : List Int32) (kind : AttributeKind) :
    tables.ListsAttributes seeds kind (tables.seedAttributes seeds kind).ids where
  ascending := IdMap.ascending_keys _
  mem_iff _ := mem_seedAttributes

theorem Tables.ids_seedAttributes_eq_nil_iff {kind : AttributeKind} :
    (tables.seedAttributes seeds kind).ids = [] ↔
      ¬∃ wanted, tables.HasAttribute seeds kind wanted := by
  rw [List.eq_nil_iff_forall_not_mem, not_exists]
  exact forall_congr' fun wanted => not_congr mem_seedAttributes

/-- The query is empty if the seeds are not classified. -/
theorem Tables.hasNoAttributes_seedQuery_iff {limit : Int} :
    (tables.seedQuery seeds limit).hasNoAttributes = true ↔ ¬tables.AreClassified seeds := by
  simp only [CandidateQuery.hasNoAttributes, seedQuery, Bool.and_eq_true, List.isEmpty_iff,
    ids_seedAttributes_eq_nil_iff, AreClassified]
  constructor
  · rintro ⟨⟨hgenres, htags⟩, hdemographics⟩ ⟨kind, hkind, hwanted⟩
    cases kind with
    | genre => exact hgenres hwanted
    | tag => exact htags hwanted
    | demographic => exact hdemographics hwanted
    | author => exact hkind rfl
  · intro hnone
    refine ⟨⟨fun hwanted => ?_, fun hwanted => ?_⟩, fun hwanted => ?_⟩
    · exact hnone ⟨.genre, by decide, hwanted⟩
    · exact hnone ⟨.tag, by decide, hwanted⟩
    · exact hnone ⟨.demographic, by decide, hwanted⟩

theorem Profile.isClassifiable_iff_areClassified :
    (Profile.ofRows (tables.rowsOf seeds)).isClassifiable = true ↔
      tables.AreClassified seeds := by
  have hquery : (tables.seedQuery seeds 0).hasNoAttributes =
      !(Profile.ofRows (tables.rowsOf seeds)).isClassifiable :=
    Candidates.hasNoAttributes_query (Profile.ofRows (tables.rowsOf seeds)) 0
  have hunclassified : (tables.seedQuery seeds 0).hasNoAttributes = true ↔
      ¬tables.AreClassified seeds := Tables.hasNoAttributes_seedQuery_iff
  rw [← not_iff_not, ← hunclassified, hquery, Bool.not_eq_true', Bool.not_eq_true]

/-! ## The seeds of a source -/

theorem Traced.mem_queries {Value : Type} {traced : Traced Value} {query : CandidateQuery} :
    query ∈ traced.queries ↔ .candidates query ∈ traced.lookups := by
  rw [queries, List.mem_filterMap]
  constructor
  · rintro ⟨lookup, hlookup, hquery⟩
    cases lookup <;> cases hquery
    exact hlookup
  · exact fun hlookup => ⟨_, hlookup, rfl⟩

/-- The ids that a source gives, in its order; those of a list that cannot exist are left out. -/
def SeedSource.given (repository : Repository) : SeedSource → Except Failure (List Int32)
  | list ids => .ok (ids.filter fun id => decide (0 < id))
  | owned user collection => repository.collectionManga user collection

/-- The distinct ids that a source gives are its seeds, up to the cap. -/
theorem SeedSource.eq_capped_of_resolve {repository : Repository} {maxSeeds : Nat}
    {source : SeedSource} {seeds : Seeds}
    (hseeds : (source.resolve repository maxSeeds).result = .ok seeds) :
    ∃ ids, source.given repository = .ok ids ∧ seeds = .capped maxSeeds ids := by
  have hcapped : ∀ {capped : Seeds} {failure : Failure},
      capped.orElse failure = .ok seeds → seeds = capped := by
    intro capped failure hresult
    rw [Seeds.orElse] at hresult
    split at hresult
    · cases hresult
    · exact (Except.ok.inj hresult).symm
  cases source with
  | list ids => exact ⟨_, rfl, hcapped hseeds⟩
  | owned user collection =>
    obtain ⟨ids, hids, hresult⟩ := Traced.result_bind_eq_ok.1 hseeds
    exact ⟨ids, hids, hcapped hresult⟩

/-- No candidates are asked for while the seeds are resolved. -/
theorem SeedSource.candidates_notMem_lookups {repository : Repository} {maxSeeds : Nat}
    (source : SeedSource) (query : CandidateQuery) :
    .candidates query ∉ (source.resolve repository maxSeeds).lookups := by
  cases source with
  | list ids => exact List.not_mem_nil
  | owned user collection =>
    have hlookups : (Seeds.ofCollection repository maxSeeds user collection).lookups =
        [.collectionManga user collection] := Traced.lookups_bind_of_nil fun ids => rfl
    rw [resolve, hlookups]
    simp

/-! ## The query -/

namespace Generator

/-- What the query says: the seeds that are left out are the used ones, none of those cut off by the
cap, and the attributes are theirs. -/
structure IsExactQuery (tables : Tables) (limits : Limits) (source : SeedSource) (seeds : Seeds)
    (query : CandidateQuery) : Prop where
  excluded : query.excluded = seeds.ids
  cut : ∀ ids, source.given (tables.repository .none) = .ok ids →
    ∀ other ∈ (firstOccurrences id ids).drop limits.maxSeeds, other ∉ query.excluded
  genres : tables.ListsAttributes seeds.ids .genre query.genres
  tags : tables.ListsAttributes seeds.ids .tag query.tags
  demographics : tables.ListsAttributes seeds.ids .demographic query.demographics
  limit : query.limit = limits.maxCandidates

theorem isExactQuery_seedQuery {limits : Limits} {source : SeedSource} {seeds : Seeds}
    (hseeds : (source.resolve (tables.repository .none) limits.maxSeeds).result = .ok seeds) :
    IsExactQuery tables limits source seeds (tables.seedQuery seeds.ids limits.maxCandidates) where
  excluded := rfl
  cut ids hids other hcut hused := by
    obtain ⟨given, hgiven, rfl⟩ := SeedSource.eq_capped_of_resolve hseeds
    cases hids.symm.trans hgiven
    exact List.disjoint_take_drop (nodup_firstOccurrences ids) le_rfl hused hcut
  genres := tables.listsAttributes seeds.ids .genre
  tags := tables.listsAttributes seeds.ids .tag
  demographics := tables.listsAttributes seeds.ids .demographic
  limit := rfl

/-- A run asks what the profile of its seeds leads to, or nothing. -/
theorem queries_run (tables : Tables) (limits : Limits) (seeds : Seeds) :
    (run (tables.repository .none) limits seeds).queries =
      if (Profile.ofRows (tables.rowsOf seeds.ids)).isClassifiable then
        [tables.seedQuery seeds.ids limits.maxCandidates]
      else [] := by
  have hbuilt := Profile.result_build tables seeds.ids
  have hstages := stages_run (tables.repository .none) limits seeds
  have hmem : ∀ query, query ∈ (run (tables.repository .none) limits seeds).queries ↔
      (Profile.ofRows (tables.rowsOf seeds.ids)).isClassifiable = true ∧
        query = tables.seedQuery seeds.ids limits.maxCandidates := by
    intro query
    rw [Traced.mem_queries, hstages.candidates_mem_iff]
    constructor
    · rintro ⟨profile, ⟨hprofile, hclassifiable⟩, hquery⟩
      cases hbuilt.symm.trans hprofile
      exact ⟨hclassifiable, hquery⟩
    · exact fun ⟨hclassifiable, hquery⟩ => ⟨_, ⟨hbuilt, hclassifiable⟩, hquery⟩
  split
  · next hclassifiable =>
    have hasked := (hmem (tables.seedQuery seeds.ids limits.maxCandidates)).2 ⟨hclassifiable, rfl⟩
    have honce : (run (tables.repository .none) limits seeds).queries.length = 1 :=
      hstages.length_queries_le.antisymm (List.length_pos_of_mem hasked)
    obtain ⟨query, hquery⟩ := List.length_eq_one_iff.1 honce
    rw [hquery] at hasked ⊢
    rw [List.mem_singleton.1 hasked]
  · next hclassifiable =>
    exact List.eq_nil_iff_forall_not_mem.2 fun query hquery => hclassifiable ((hmem query).1 hquery).1

/-- A profile that leads to no query leads to no items. -/
theorem items_eq_nil_of_not_classifiable {limits : Limits} {seeds : Seeds}
    {recommendation : Recommendation}
    (hrun : (run (tables.repository .none) limits seeds).result = .ok recommendation)
    (hclassifiable : (Profile.ofRows (tables.rowsOf seeds.ids)).isClassifiable = false) :
    recommendation.items = [] := by
  rw [run, Traced.bind_of_ok (Profile.result_build tables seeds.ids),
    Candidates.select_of_not_classifiable hclassifiable] at hrun
  cases hrun
  rfl

/-- Whatever the tables hold, a request that comes to seeds is answered, and asks for candidates
once if some seed has a genre, a tag or a demographic and otherwise not at all, in which case nothing
is recommended.  The profile of the seeds tells these cases apart, and the query is exact. -/
theorem candidates_asked_exactly (tables : Tables) (limits : Limits) (source : SeedSource)
    (seeds : Seeds)
    (hseeds : (source.resolve (tables.repository .none) limits.maxSeeds).result = .ok seeds) :
    ∃ profile recommendation,
      (Profile.build (tables.repository .none) seeds.ids).result = .ok profile ∧
      (forSource (tables.repository .none) limits source).result = .ok recommendation ∧
      (profile.isClassifiable = true ↔ tables.AreClassified seeds.ids) ∧
      (tables.AreClassified seeds.ids → ∃ query,
        (forSource (tables.repository .none) limits source).queries = [query] ∧
        IsExactQuery tables limits source seeds query ∧
        query.excluded.length = recommendation.seeds.used) ∧
      (¬tables.AreClassified seeds.ids →
        (forSource (tables.repository .none) limits source).queries = [] ∧
        recommendation.items = []) := by
  obtain ⟨recommendation, hrun⟩ := exists_run_of_answersRows tables.answersRows limits seeds
  have hqueries : (forSource (tables.repository .none) limits source).queries =
      (run (tables.repository .none) limits seeds).queries := by
    rw [forSource_eq, Traced.bind_of_ok hseeds]
    exact Traced.queries_append source.candidates_notMem_lookups _ _
  have hclassifiable : (Profile.ofRows (tables.rowsOf seeds.ids)).isClassifiable = true ↔
      tables.AreClassified seeds.ids := Profile.isClassifiable_iff_areClassified
  refine ⟨_, recommendation, Profile.result_build tables seeds.ids, ?_, hclassifiable, ?_, ?_⟩
  · rw [forSource_eq, Traced.bind_of_ok hseeds]
    exact hrun
  · intro hclassified
    refine ⟨_, ?_, isExactQuery_seedQuery hseeds, ?_⟩
    · rw [hqueries, queries_run, if_pos (hclassifiable.2 hclassified)]
    · rw [seeds_of_run hrun]
      rfl
  · intro hnone
    have hunclassifiable := Bool.eq_false_of_not_eq_true (mt hclassifiable.1 hnone)
    refine ⟨?_, items_eq_nil_of_not_classifiable hrun hunclassifiable⟩
    rw [hqueries, queries_run, hunclassifiable, if_neg Bool.false_ne_true]

/-- Three manga with genres, whose rows are repeated and in no order. -/
def scatteredGenres : Tables where
  manga := []
  links kind := if kind = .genre then [(2, 8), (7, 5), (9, 1), (2, 8), (7, 8)] else []
  collections := []
  fixedCandidates := none

theorem candidates_asked_exactly_scatteredGenres :
    let store := scatteredGenres.repository .none
    let source := SeedSource.list [7, 2, -1, 7, 9]
    (source.resolve store 2).result = .ok ⟨[7, 2], 3⟩ ∧
      ∃ query, (forSource store ⟨2, 40⟩ source).queries = [query] ∧ query.excluded = [7, 2] ∧
        9 ∉ query.excluded ∧ 8 ∈ query.genres ∧ 1 ∉ query.genres ∧ query.tags = [] ∧
        query.limit = 40 := by
  have hseeds : ((SeedSource.list [7, 2, -1, 7, 9]).resolve (scatteredGenres.repository .none)
      2).result = .ok ⟨[7, 2], 3⟩ := rfl
  have hclassified : scatteredGenres.AreClassified [7, 2] :=
    ⟨.genre, by decide, 8, 2, by decide, by decide⟩
  obtain ⟨profile, recommendation, -, -, -, hasked, -⟩ :=
    candidates_asked_exactly scatteredGenres ⟨2, 40⟩ _ _ hseeds
  obtain ⟨query, hqueries, hexact, -⟩ := hasked hclassified
  refine ⟨hseeds, query, hqueries, hexact.excluded, ?_, ?_, ?_, ?_, hexact.limit⟩
  · exact hexact.cut _ rfl 9 (by decide)
  · exact (hexact.genres.mem_iff 8).2 ⟨2, by decide, by decide⟩
  · intro hlisted
    obtain ⟨seed, hseed, hlink⟩ := (hexact.genres.mem_iff 1).1 hlisted
    rcases List.mem_pair.1 hseed with rfl | rfl <;> exact absurd hlink (by decide)
  · refine List.eq_nil_iff_forall_not_mem.2 fun wanted hlisted => ?_
    obtain ⟨seed, -, hlink⟩ := (hexact.tags.mem_iff wanted).1 hlisted
    exact List.not_mem_nil hlink

end Generator

end MangaRecommender
