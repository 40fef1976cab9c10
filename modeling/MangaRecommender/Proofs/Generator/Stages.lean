import Mathlib
import MangaRecommender.Catalogue.Tables
import MangaRecommender.Generator
import MangaRecommender.Proofs.Catalogue.FirstFailure

/-!
# How a run fails

A run goes through stages: the seeds are resolved, six lookups build their profile, one query
selects candidates, and four lookups load the attributes of the candidates that remain.  A stage is
begun only if the ones before it have succeeded and have left something to look up, so that
the failures that a run can meet depend on the answers it got.  Whatever the answers are, the first
failure among the lookups that were made is the failure of the run.
-/

namespace MangaRecommender

variable {repository : Repository} {seeds : List Int32}

/-- Every lookup about manga is answered; whether a collection is there is another matter. -/
structure Repository.AnswersRows (repository : Repository) : Prop where
  links : ∀ kind ids, ∃ rows, repository.links kind ids = .ok rows
  ratings : ∀ ids, ∃ rows, repository.ratings ids = .ok rows
  dates : ∀ ids, ∃ rows, repository.dates ids = .ok rows
  candidates : ∀ query, ∃ rows, repository.candidates query = .ok rows

theorem Tables.answersRows (tables : Tables) : (tables.repository .none).AnswersRows where
  links _ _ := ⟨_, rfl⟩
  ratings _ := ⟨_, rfl⟩
  dates _ := ⟨_, rfl⟩
  candidates _ := ⟨_, rfl⟩

/-! ## The stages -/

/-- The lookups about the seeds, which are made together. -/
def Profile.lookups (seeds : List Int32) : List Lookup :=
  [.links .genre seeds, .links .tag seeds, .links .demographic seeds, .links .author seeds,
    .ratings seeds, .dates seeds]

/-- The lookups about the candidates, which are made together. -/
def Features.lookups (ids : List Int32) : List Lookup :=
  [.links .genre ids, .links .tag ids, .links .demographic ids, .links .author ids]

theorem Profile.endsAtFirstFailure_build :
    (build repository seeds).EndsAtFirstFailure repository := by
  have hrows : (lookUpRows repository seeds).EndsAtFirstFailure repository := by
    apply Traced.EndsAtFirstFailure.bind
    · apply (Traced.EndsAtFirstFailure.links .genre seeds).together
      apply (Traced.EndsAtFirstFailure.links .tag seeds).together
      apply (Traced.EndsAtFirstFailure.links .demographic seeds).together
      apply (Traced.EndsAtFirstFailure.links .author seeds).together
      exact (Traced.EndsAtFirstFailure.ratings seeds).together (.dates seeds)
    · exact fun rows => .pure _
  exact hrows.bind fun rows => .pure _

theorem Profile.lookups_build : (build repository seeds).lookups = lookups seeds := by
  have hrows : (lookUpRows repository seeds).lookups = lookups seeds :=
    Traced.lookups_bind_of_nil fun rows => rfl
  rw [← hrows]
  exact Traced.lookups_bind_of_nil fun rows => rfl

theorem Features.endsAtFirstFailure_load (ids : List Int32) :
    (load repository ids).EndsAtFirstFailure repository := by
  unfold load
  split
  · exact .pure _
  · apply Traced.EndsAtFirstFailure.bind
    · apply (Traced.EndsAtFirstFailure.links .genre ids).together
      apply (Traced.EndsAtFirstFailure.links .tag ids).together
      exact (Traced.EndsAtFirstFailure.links .demographic ids).together (.links .author ids)
    · exact fun links => .pure _

theorem Features.lookups_load {ids : List Int32} (hids : ids ≠ []) :
    (load repository ids).lookups = lookups ids := by
  rw [load, if_neg (by simpa using hids)]
  exact Traced.lookups_bind_of_nil fun links => rfl

/-- The profile and the query made of it agree on whether there is anything to ask for. -/
theorem Candidates.hasNoAttributes_query (profile : Profile) (limit : Int) :
    (query seeds profile limit).hasNoAttributes = !profile.isClassifiable := by
  have hempty : ∀ frequencies : Frequencies, frequencies.ids.isEmpty = frequencies.isEmpty :=
    fun frequencies => List.isEmpty_map ..
  simp only [CandidateQuery.hasNoAttributes, query, hempty, Profile.isClassifiable, Bool.not_not]

theorem Candidates.endsAtFirstFailure_select (profile : Profile) (limit : Int) :
    (select repository seeds profile limit).EndsAtFirstFailure repository := by
  unfold select
  simp only
  split
  · exact .pure _
  · exact (Traced.EndsAtFirstFailure.candidates _).bind fun rows => .pure _

/-- A profile without genres, tags and demographics is not asked about. -/
theorem Candidates.select_of_not_classifiable {profile : Profile}
    (hclassifiable : profile.isClassifiable = false) (limit : Int) :
    select repository seeds profile limit = pure [] := by
  simp only [select, hasNoAttributes_query, hclassifiable, Bool.not_false, if_true]

theorem Candidates.select_of_classifiable (repository : Repository) (seeds : List Int32)
    {profile : Profile} (hclassifiable : profile.isClassifiable = true) (limit : Int) :
    select repository seeds profile limit =
      ⟨[.candidates (query seeds profile limit)],
        (repository.candidates (query seeds profile limit)).map (admissible seeds)⟩ := by
  simp only [select, hasNoAttributes_query, hclassifiable, Bool.not_true, Bool.false_eq_true,
    if_false]
  cases hrows : repository.candidates (query seeds profile limit) with
  | error failure => exact Traced.bind_of_error hrows _
  | ok rows => exact Traced.bind_of_ok hrows _

namespace Generator

theorem endsAtFirstFailure_rankCandidates (profile : Profile) (candidates : List Manga) :
    (rankCandidates repository profile candidates).EndsAtFirstFailure repository := by
  unfold rankCandidates
  split
  · exact .pure _
  · exact (Features.endsAtFirstFailure_load _).bind fun features => .pure _

theorem endsAtFirstFailure_run (limits : Limits) (seeds : Seeds) :
    (run repository limits seeds).EndsAtFirstFailure repository := by
  apply Profile.endsAtFirstFailure_build.bind
  intro profile
  apply (Candidates.endsAtFirstFailure_select profile limits.maxCandidates).bind
  intro candidates
  apply (endsAtFirstFailure_rankCandidates profile candidates).bind
  exact fun items => .pure _

/-- Where rows are looked up and found, every run has a result, whatever the rows are. -/
theorem exists_run_of_answersRows (hrows : repository.AnswersRows) (limits : Limits)
    (seeds : Seeds) : ∃ recommendation, (run repository limits seeds).result = .ok recommendation := by
  -- A run asks for no collection, so it may as well be made where every collection is there.
  let generous : Repository :=
    { repository with
      owns := fun _ _ => .ok true
      collectionManga := fun _ _ => .ok []
      userCollections := fun _ => .ok [] }
  have hanswers : ∀ lookup, generous.failure? lookup = none := by
    intro lookup
    cases lookup with
    | links kind ids => exact Failure.ofAnswer?_eq_none_iff.2 (hrows.links kind ids)
    | ratings ids => exact Failure.ofAnswer?_eq_none_iff.2 (hrows.ratings ids)
    | dates ids => exact Failure.ofAnswer?_eq_none_iff.2 (hrows.dates ids)
    | candidates query => exact Failure.ofAnswer?_eq_none_iff.2 (hrows.candidates query)
    | owns user collection => rfl
    | collectionManga user collection => rfl
    | userCollections user => rfl
  have hends : (run generous limits seeds).EndsAtFirstFailure generous :=
    endsAtFirstFailure_run limits seeds
  exact hends.ok_iff.2 fun lookup _ => hanswers lookup

/-- What a run looks up once its candidates are selected. -/
theorem lookups_rankCandidates (profile : Profile) (candidates : List Manga) :
    (rankCandidates repository profile candidates).lookups =
      if candidates = [] then [] else Features.lookups (candidates.map Manga.id) := by
  rw [rankCandidates]
  by_cases hcandidates : candidates = []
  · rw [if_pos (by simpa using hcandidates), if_pos hcandidates]
    rfl
  · rw [if_neg (by simpa using hcandidates), if_neg hcandidates,
      Traced.lookups_bind_of_nil fun features => rfl]
    exact Features.lookups_load (by simpa using hcandidates)

/-- The profile of the seeds is built and has something to find candidates by. -/
def HasProfile (repository : Repository) (seeds : List Int32) (profile : Profile) : Prop :=
  (Profile.build repository seeds).result = .ok profile ∧ profile.isClassifiable = true

/-- The query for candidates is made and answered, and these candidates remain, one at least. -/
def HasCandidates (repository : Repository) (limit : Int) (seeds : List Int32)
    (candidates : List Manga) : Prop :=
  ∃ profile rows, HasProfile repository seeds profile ∧
    repository.candidates (Candidates.query seeds profile limit) = .ok rows ∧
    candidates = Candidates.admissible seeds rows ∧ candidates ≠ []

/-- The lookups of a run for some seeds, stage by stage. -/
inductive Stages (repository : Repository) (limit : Int) (seeds : List Int32) :
    List Lookup → Prop
  | profile (hprofile : ∀ profile, ¬HasProfile repository seeds profile) :
      Stages repository limit seeds (Profile.lookups seeds)
  | candidates {profile : Profile} (hprofile : HasProfile repository seeds profile)
      (hcandidates : ∀ candidates, ¬HasCandidates repository limit seeds candidates) :
      Stages repository limit seeds
        (Profile.lookups seeds ++ [.candidates (Candidates.query seeds profile limit)])
  | features {profile : Profile} (hprofile : HasProfile repository seeds profile)
      {candidates : List Manga}
      (hcandidates : HasCandidates repository limit seeds candidates) :
      Stages repository limit seeds
        (Profile.lookups seeds ++ .candidates (Candidates.query seeds profile limit) ::
          Features.lookups (candidates.map Manga.id))

theorem HasProfile.unique {first second : Profile} (hfirst : HasProfile repository seeds first)
    (hsecond : HasProfile repository seeds second) : first = second :=
  Except.ok.inj (hfirst.1.symm.trans hsecond.1)

theorem HasCandidates.unique {limit : Int} {first second : List Manga}
    (hfirst : HasCandidates repository limit seeds first)
    (hsecond : HasCandidates repository limit seeds second) : first = second := by
  obtain ⟨profile, rows, hprofile, hrows, rfl, -⟩ := hfirst
  obtain ⟨other, answered, hother, hanswered, rfl, -⟩ := hsecond
  cases hprofile.unique hother
  cases hrows.symm.trans hanswered
  rfl

theorem stages_run (repository : Repository) (limits : Limits) (seeds : Seeds) :
    Stages repository limits.maxCandidates seeds.ids (run repository limits seeds).lookups := by
  cases hbuilt : (Profile.build repository seeds.ids).result with
  | error failure =>
    rw [run, Traced.bind_of_error hbuilt, Profile.lookups_build]
    exact .profile fun profile hprofile => by cases hbuilt.symm.trans hprofile.1
  | ok profile =>
    rw [run, Traced.bind_of_ok hbuilt, Profile.lookups_build]
    cases hclassifiable : profile.isClassifiable with
    | false =>
      rw [Candidates.select_of_not_classifiable hclassifiable]
      refine .profile fun other hprofile => ?_
      cases hbuilt.symm.trans hprofile.1
      cases hclassifiable.symm.trans hprofile.2
    | true =>
      have hprofile : HasProfile repository seeds.ids profile := ⟨hbuilt, hclassifiable⟩
      have hselect := Candidates.select_of_classifiable repository seeds.ids hclassifiable
        limits.maxCandidates
      cases hrows : repository.candidates
          (Candidates.query seeds.ids profile limits.maxCandidates) with
      | error failure =>
        rw [hrows] at hselect
        rw [hselect, Traced.bind_of_error rfl]
        refine .candidates hprofile ?_
        rintro candidates ⟨other, rows, hother, hanswered, -⟩
        cases hprofile.unique hother
        cases hrows.symm.trans hanswered
      | ok rows =>
        rw [hrows] at hselect
        rw [hselect, Traced.bind_of_ok rfl, Traced.lookups_bind_of_nil fun items => rfl,
          lookups_rankCandidates]
        split
        · next hnone =>
          refine .candidates hprofile ?_
          rintro candidates ⟨other, answered, hother, hanswered, rfl, hremain⟩
          cases hprofile.unique hother
          cases hrows.symm.trans hanswered
          exact hremain hnone
        · next hremain => exact .features hprofile ⟨profile, rows, hprofile, hrows, rfl, hremain⟩

/-! ## What the stages look up -/

namespace Stages

variable {limit : Int} {lookups : List Lookup}

/-- Candidates are asked for exactly if the profile has something to find them by. -/
theorem candidates_mem_iff (hstages : Stages repository limit seeds lookups)
    {query : CandidateQuery} :
    .candidates query ∈ lookups ↔
      ∃ profile, HasProfile repository seeds profile ∧
        query = Candidates.query seeds profile limit := by
  have hunique : ∀ {profile}, HasProfile repository seeds profile →
      ((∃ profile, HasProfile repository seeds profile ∧
        query = Candidates.query seeds profile limit) ↔
          query = Candidates.query seeds profile limit) := by
    intro profile hprofile
    constructor
    · rintro ⟨other, hother, hquery⟩
      rwa [hprofile.unique hother]
    · exact fun hquery => ⟨profile, hprofile, hquery⟩
  cases hstages with
  | profile hprofile => simp [Profile.lookups, hprofile]
  | candidates hprofile _ => simp [Profile.lookups, hunique hprofile]
  | features hprofile _ => simp [Profile.lookups, Features.lookups, hunique hprofile]

/-- Attributes are looked up of the seeds, and of the candidates exactly if there are any. -/
theorem links_mem_iff (hstages : Stages repository limit seeds lookups) {kind : AttributeKind}
    {ids : List Int32} :
    .links kind ids ∈ lookups ↔
      ids = seeds ∨ ∃ candidates, HasCandidates repository limit seeds candidates ∧
        ids = candidates.map Manga.id := by
  have hunique : ∀ {candidates}, HasCandidates repository limit seeds candidates →
      ((∃ candidates, HasCandidates repository limit seeds candidates ∧
        ids = candidates.map Manga.id) ↔ ids = candidates.map Manga.id) := by
    intro candidates hcandidates
    constructor
    · rintro ⟨other, hother, hids⟩
      rwa [hcandidates.unique hother]
    · exact fun hids => ⟨candidates, hcandidates, hids⟩
  cases hstages with
  | profile hprofile =>
    have hnone : ∀ candidates, ¬HasCandidates repository limit seeds candidates := by
      rintro candidates ⟨other, rows, hother, -⟩
      exact hprofile other hother
    cases kind <;> simp [Profile.lookups, hnone]
  | candidates _ hcandidates => cases kind <;> simp [Profile.lookups, hcandidates]
  | features _ hcandidates =>
    cases kind <;> simp [Profile.lookups, Features.lookups, hunique hcandidates]

/-- Candidates are asked for once at most. -/
theorem length_queries_le {Value : Type} {traced : Traced Value}
    (hstages : Stages repository limit seeds traced.lookups) : traced.queries.length ≤ 1 := by
  rw [Traced.queries]
  generalize traced.lookups = lookups at hstages
  cases hstages with
  | profile _ => simp [Profile.lookups]
  | candidates _ _ => simp [Profile.lookups]
  | features _ _ => simp [Profile.lookups, Features.lookups]

end Stages

/-! ## The failure of a run -/

/-- How the result of a request hangs together with its lookups.  `asked` are the lookups that
resolve its seeds, `resolved` is what these come to, and `noSeeds` is the failure of having none. -/
structure FailsInOrder (repository : Repository) (limits : Limits) (asked : List Lookup)
    (resolved : Except Failure Seeds) (noSeeds : Failure) (run : Traced Recommendation) : Prop where
  /-- There is a result if there are seeds and every lookup that was made is answered. -/
  ok_iff : (∃ recommendation, run.result = .ok recommendation) ↔
    (∀ lookup ∈ run.lookups, repository.failure? lookup = none) ∧
      ∃ seeds, resolved = .ok seeds ∧ seeds.ids ≠ []
  /-- The failure is the first one among the lookups, or the one of having no seeds. -/
  error_iff : ∀ failure, run.result = .error failure ↔
    run.lookups.findSome? repository.failure? = some failure ∨
      failure = noSeeds ∧ ∃ seeds, resolved = .ok seeds ∧ seeds.ids = []
  /-- Nothing is looked up about no seeds. -/
  lookups_of_none : (∀ seeds, resolved = .ok seeds → seeds.ids = []) → run.lookups = asked
  /-- What is looked up about seeds. -/
  lookups_of_seeds : ∀ seeds, resolved = .ok seeds → seeds.ids ≠ [] →
    ∃ later, run.lookups = asked ++ later ∧
      Stages repository limits.maxCandidates seeds.ids later ∧
      (∀ query, .candidates query ∈ later ↔ ∃ profile,
        HasProfile repository seeds.ids profile ∧
          query = Candidates.query seeds.ids profile limits.maxCandidates) ∧
      ∀ kind ids, .links kind ids ∈ later ↔ ids = seeds.ids ∨ ∃ candidates,
        HasCandidates repository limits.maxCandidates seeds.ids candidates ∧
          ids = candidates.map Manga.id
  /-- Candidates are asked for once at most. -/
  length_queries : run.queries.length ≤ 1

section Resolved

variable {limits : Limits} {asked : List Lookup} {resolved : Except Failure Seeds}
  {noSeeds : Failure} (hquiet : ∀ query, .candidates query ∉ asked)

include hquiet

/-- Without seeds the run ends after their resolution. -/
theorem failsInOrder_of_no_seeds {failure : Failure}
    (hnone : ∀ seeds, resolved = .ok seeds → seeds.ids = [])
    (hfailure : ∀ other, failure = other ↔ asked.findSome? repository.failure? = some other ∨
      other = noSeeds ∧ ∃ seeds, resolved = .ok seeds ∧ seeds.ids = []) :
    FailsInOrder repository limits asked resolved noSeeds ⟨asked, .error failure⟩ where
  ok_iff := by
    constructor
    · rintro ⟨recommendation, hresult⟩
      cases hresult
    · rintro ⟨-, seeds, hseeds, hids⟩
      exact absurd (hnone seeds hseeds) hids
  error_iff other := Except.error.injEq failure other ▸ hfailure other
  lookups_of_none _ := rfl
  lookups_of_seeds seeds hseeds hids := absurd (hnone seeds hseeds) hids
  length_queries := by
    have hqueries :=
      Traced.queries_append hquiet [] (.error failure : Except Failure Recommendation)
    rw [List.append_nil] at hqueries
    exact hqueries ▸ Nat.zero_le 1

/-- With seeds the run goes through the stages. -/
theorem failsInOrder_of_seeds (hanswered : asked.findSome? repository.failure? = none)
    {seeds : Seeds} (hids : seeds.ids ≠ []) :
    FailsInOrder repository limits asked (.ok seeds) noSeeds
      ⟨asked ++ (run repository limits seeds).lookups, (run repository limits seeds).result⟩ where
  ok_iff := by
    have hasked := List.findSome?_eq_none_iff.1 hanswered
    rw [(endsAtFirstFailure_run limits seeds).ok_iff, List.forall_mem_append]
    exact ⟨fun hrun => ⟨⟨hasked, hrun⟩, seeds, rfl, hids⟩, fun hall => hall.1.2⟩
  error_iff failure := by
    rw [(endsAtFirstFailure_run limits seeds).error_iff, List.findSome?_append, hanswered,
      Option.none_or]
    refine ⟨.inl, fun hfailure => hfailure.resolve_right ?_⟩
    rintro ⟨-, other, hother, hnone⟩
    cases hother
    exact hids hnone
  lookups_of_none hnone := absurd (hnone seeds rfl) hids
  lookups_of_seeds other hother _ := by
    cases hother
    have hstages := stages_run repository limits seeds
    exact ⟨_, rfl, hstages, fun query => hstages.candidates_mem_iff,
      fun kind ids => hstages.links_mem_iff⟩
  length_queries := by
    rw [Traced.queries_append hquiet]
    exact (stages_run repository limits seeds).length_queries_le

/-- A request goes from the resolution of its seeds to the stages of a run. -/
theorem failsInOrder_of_resolved
    (hasked : Failure.ofAnswer? resolved = asked.findSome? repository.failure?) :
    FailsInOrder repository limits asked resolved noSeeds
      (⟨asked, resolved.bind fun seeds => seeds.orElse noSeeds⟩ >>= run repository limits) := by
  cases resolved with
  | error failure =>
    have hfirst : asked.findSome? repository.failure? = some failure := hasked.symm
    rw [Traced.bind_of_error rfl]
    refine failsInOrder_of_no_seeds hquiet (fun seeds hseeds => by cases hseeds) fun other => ?_
    rw [hfirst]
    simp
  | ok seeds =>
    have hanswered : asked.findSome? repository.failure? = none := hasked.symm
    by_cases hids : seeds.ids = []
    · have hnone : seeds.orElse noSeeds = .error noSeeds := by
        simp [Seeds.orElse, Seeds.isEmpty, hids]
      rw [Traced.bind_of_error hnone]
      refine failsInOrder_of_no_seeds hquiet (fun other hother => ?_) fun other => ?_
      · cases hother
        exact hids
      · rw [hanswered]
        simp [hids, eq_comm]
    · have hsome : seeds.orElse noSeeds = .ok seeds := by
        simp [Seeds.orElse, Seeds.isEmpty, hids]
      rw [Traced.bind_of_ok hsome]
      exact failsInOrder_of_seeds hquiet hanswered hids

end Resolved

/-- Whatever a repository answers and wherever it fails, a list or a collection is answered exactly
if there are seeds and every lookup that is made is answered.  Otherwise the failure of the request
is that of the first failing lookup, in the order in which they are made, or that of having no
seeds, and what would come after it is not looked up. -/
theorem request_fails_in_order (repository : Repository) (limits : Limits) :
    (∀ ids, FailsInOrder repository limits []
      (.ok (.capped limits.maxSeeds (ids.filter fun id => decide (0 < id)))) .emptyList
      (forList repository limits ids)) ∧
    ∀ user collection, FailsInOrder repository limits [.collectionManga user collection]
      ((repository.collectionManga user collection).map (Seeds.capped limits.maxSeeds))
      .emptyCollection (forCollection repository limits user collection) := by
  constructor
  · intro ids
    exact failsInOrder_of_resolved (fun query => List.not_mem_nil) rfl
  · intro user collection
    have hresolved : Seeds.ofCollection repository limits.maxSeeds user collection =
        ⟨[.collectionManga user collection],
          ((repository.collectionManga user collection).map (Seeds.capped limits.maxSeeds)).bind
            fun seeds => seeds.orElse .emptyCollection⟩ := by
      cases hids : repository.collectionManga user collection with
      | error failure => exact Traced.bind_of_error hids _
      | ok ids => exact Traced.bind_of_ok hids _
    rw [forCollection, hresolved]
    apply failsInOrder_of_resolved
    · simp
    · rw [List.findSome?_singleton]
      cases hids : repository.collectionManga user collection with
      | error failure => simp [Except.map, Repository.failure?, hids, Failure.ofAnswer?]
      | ok ids => simp [Except.map, Repository.failure?, hids, Failure.ofAnswer?]

end Generator

end MangaRecommender
