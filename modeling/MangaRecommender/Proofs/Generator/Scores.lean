import Mathlib
import MangaRecommender.Generator
import MangaRecommender.Proofs.Catalogue.Traced
import MangaRecommender.Proofs.Generator.Selection
import MangaRecommender.Proofs.Score.Terms

/-!
# What a score counts

A score is a function of the rows that a run looked up, whatever their order and repetitions.  On
the side of the seeds every row counts that names an attribute of the manga; on the side of the
manga an attribute counts once, however many rows repeat it, and rows of other manga do not
matter.  The maps and indexes of the generator compute just that.
-/

namespace MangaRecommender

/-! ## The rows and what they add up to -/

/-- The rows that a run looked up, about its seeds and about its candidates. -/
structure ScoringRows where
  seedLinks : AttributeKind → List Link
  seedRatings : List (Int32 × Option Binary64)
  seedDates : List (Int32 × Option CalendarDate)
  candidates : List Manga
  candidateLinks : AttributeKind → List Link

namespace ScoringRows

/-- The repository answers these rows, given the seeds and the ids of the candidates. -/
structure AreAnswered (rows : ScoringRows) (repository : Repository) (seeds ids : List Int32) :
    Prop where
  seedLinks : ∀ kind, repository.links kind seeds = .ok (rows.seedLinks kind)
  seedRatings : repository.ratings seeds = .ok rows.seedRatings
  seedDates : repository.dates seeds = .ok rows.seedDates
  candidates : ∃ query, query.excluded = seeds ∧ repository.candidates query = .ok rows.candidates
  candidateLinks : ∀ kind, repository.links kind ids = .ok (rows.candidateLinks kind)

variable (rows : ScoringRows)

/-- How many rows about the seeds name an attribute that some row links to the manga. -/
def sharedCount (kind : AttributeKind) (manga : Int32) : Nat :=
  (rows.seedLinks kind).countP fun link => (rows.candidateLinks kind).contains (manga, link.2)

def SharesAuthor (manga : Int32) : Prop :=
  ∃ link ∈ rows.seedLinks .author, (manga, link.2) ∈ rows.candidateLinks .author

instance (manga : Int32) : Decidable (rows.SharesAuthor manga) :=
  inferInstanceAs (Decidable (∃ link ∈ rows.seedLinks .author, _))

/-- The known ratings of the seeds, in the order of the rows. -/
def ratings : List Binary64 := rows.seedRatings.filterMap Prod.snd

/-- The years of the known dates of the seeds. -/
def years : List Int := rows.seedDates.filterMap fun row => row.2.map CalendarDate.year

/-- The sum of the known ratings, added in their order, over their number. -/
def meanRating : Binary64 :=
  rows.ratings.foldl (· + ·) (.signedZero true) / .ofNat rows.ratings.length

/-- The item is the candidate of a row with the score that the rows give it. -/
structure Scores (row : Manga) (item : ScoredManga) : Prop where
  id : item.id = row.id
  title : item.title = row.title
  externalRating : item.rating = row.rating
  cover : item.cover = row.cover
  genre : item.details.genre.Is (2 * rows.sharedCount .genre row.id)
  tag : item.details.tag.Is (3 * rows.sharedCount .tag row.id)
  demographic : item.details.demographic.Is (5 / 4 * rows.sharedCount .demographic row.id)
  author : item.details.author.Is (if rows.SharesAuthor row.id then 3 else 0)
  rating : ∀ known, row.rating = some known → rows.ratings ≠ [] →
    item.details.rating = (.ofNat 5 - (known - rows.meanRating).abs).positivePart
  ratingUnknown : row.rating = none ∨ rows.ratings = [] → item.details.rating.Is 0
  year : ∀ date, row.published = some date → rows.years ≠ [] →
    ∃ mean, IsRoundedMean rows.years mean ∧
      item.details.year.Is (max 0 (5 - |(date.year : ℚ) - mean| / 2))
  yearUnknown : row.published = none ∨ rows.years = [] → item.details.year.Is 0
  score : item.score = Score.roundToCents (item.details.genre + item.details.tag +
    item.details.demographic + item.details.author + item.details.rating + item.details.year)

end ScoringRows

/-- No lookup of links or dates answers as many rows as 32 bits can count. -/
structure Repository.AnswersFewRows (repository : Repository) : Prop where
  links : ∀ kind ids links, repository.links kind ids = .ok links → links.length < 2 ^ 32
  dates : ∀ ids dates, repository.dates ids = .ok dates → dates.length < 2 ^ 32

/-! ## What a run looked up -/

variable {repository : Repository} {seeds ids : List Int32}

theorem Profile.build_eq_ok {profile : Profile}
    (hbuild : (build repository seeds).result = .ok profile) :
    ∃ rows : Rows, profile = ofRows rows ∧
      repository.links .genre seeds = .ok rows.genres ∧
      repository.links .tag seeds = .ok rows.tags ∧
      repository.links .demographic seeds = .ok rows.demographics ∧
      repository.links .author seeds = .ok rows.authors ∧
      repository.ratings seeds = .ok rows.ratings ∧
      repository.dates seeds = .ok rows.dates := by
  obtain ⟨rows, hrows, hprofile⟩ := Traced.result_bind_eq_ok.1 hbuild
  obtain ⟨⟨genres, tags, demographics, authors, ratings, dates⟩, hlookups, hpure⟩ :=
    Traced.result_bind_eq_ok.1 hrows
  simp only [Traced.result_together_eq_ok] at hlookups
  cases hpure
  cases hprofile
  exact ⟨_, rfl, hlookups⟩

theorem Features.load_eq_ok {features : Features} (hids : ids ≠ [])
    (hload : (load repository ids).result = .ok features) :
    ∃ links : AttributeKind → List Link, (∀ kind, repository.links kind ids = .ok (links kind)) ∧
      features = ⟨.ofLinks (links .genre), .ofLinks (links .tag), .ofLinks (links .demographic),
        .ofLinks (links .author)⟩ := by
  rw [load, if_neg (by simpa using hids)] at hload
  obtain ⟨⟨genres, tags, demographics, authors⟩, hlookups, hpure⟩ :=
    Traced.result_bind_eq_ok.1 hload
  simp only [Traced.result_together_eq_ok] at hlookups
  cases hpure
  obtain ⟨hgenres, htags, hdemographics, hauthors⟩ := hlookups
  refine ⟨AttributeKind.rec genres tags demographics authors, fun kind => ?_, rfl⟩
  cases kind with
  | genre => exact hgenres
  | tag => exact htags
  | demographic => exact hdemographics
  | author => exact hauthors

/-- Without a query there are no candidates. -/
theorem Candidates.select_eq_ok {profile : Profile} {limit : Int} {candidates : List Manga}
    (hselect : (select repository seeds profile limit).result = .ok candidates) :
    candidates = [] ∨ ∃ answered,
      repository.candidates (query seeds profile limit) = .ok answered ∧
        candidates = admissible seeds answered := by
  rw [select] at hselect
  split at hselect
  · cases hselect
    exact .inl rfl
  · obtain ⟨answered, hanswered, hpure⟩ := Traced.result_bind_eq_ok.1 hselect
    cases hpure
    exact .inr ⟨answered, hanswered, rfl⟩

theorem find?_of_mem_firstOccurrences {Item : Type} {key : Item → Int32} {items : List Item}
    {item : Item} (hitem : item ∈ firstOccurrences key items) :
    items.find? (fun other => key other == key item) = some item := by
  induction items with
  | nil => cases hitem
  | cons first rest ih =>
    rcases List.mem_cons.1 hitem with rfl | hlater
    · simp
    · obtain ⟨hmem, hkey⟩ := List.mem_filter.1 hlater
      have hdiffers : (key first == key item) = false := by
        rw [bne_iff_ne] at hkey
        exact beq_eq_false_iff_ne.2 hkey.symm
      rw [List.find?_cons, hdiffers]
      exact ih hmem

/-- A candidate is the first rated row of its id, which is no seed. -/
theorem Candidates.find?_of_mem_admissible {rows : List Manga} {row : Manga}
    (hrow : row ∈ admissible seeds rows) :
    row.id ∉ seeds ∧
      rows.find? (fun other => other.rating.isSome && other.id == row.id) = some row := by
  have hadmissible := (List.mem_filter.1 (mem_of_mem_firstOccurrences hrow)).2
  simp only [isAdmissible, Bool.and_eq_true, Bool.not_eq_true', List.contains_eq_mem,
    decide_eq_false_iff_not] at hadmissible
  refine ⟨hadmissible.2, ?_⟩
  have hfind := find?_of_mem_firstOccurrences hrow
  rw [List.find?_filter] at hfind
  have hsame : (fun other : Manga => other.rating.isSome && other.id == row.id) =
      fun other => decide (isAdmissible seeds other = true ∧ (other.id == row.id) = true) := by
    funext other
    by_cases hid : other.id = row.id
    · simp [isAdmissible, hid, hadmissible.2]
    · simp [hid]
  rw [hsame]
  exact hfind

/-! ## The terms of a candidate -/

/-- The rows of the seeds as a profile is made of them. -/
def ScoringRows.profile (rows : ScoringRows) : Profile :=
  .ofRows ⟨rows.seedLinks .genre, rows.seedLinks .tag, rows.seedLinks .demographic,
    rows.seedLinks .author, rows.seedRatings, rows.seedDates⟩

/-- The rows of the candidates as their attributes are indexed. -/
def ScoringRows.features (rows : ScoringRows) : Features :=
  ⟨.ofLinks (rows.candidateLinks .genre), .ofLinks (rows.candidateLinks .tag),
    .ofLinks (rows.candidateLinks .demographic), .ofLinks (rows.candidateLinks .author)⟩

namespace Score

variable {rows : ScoringRows}

/-- The weight of the attributes of a manga is the number of rows that it shares. -/
theorem is_sharedTerm {weight : Binary64} {points : ℚ} {quarters : Nat} (hweight : weight.Is points)
    (hpoints : points = quarters / 4) (hquarters : quarters ≤ 2 ^ 20) {kind : AttributeKind}
    (hfew : (rows.seedLinks kind).length < 2 ^ 32) (manga : Int32) :
    (attributeTerm weight (.ofList ((rows.seedLinks kind).map Prod.snd))
      ((AttributeIndex.ofLinks (rows.candidateLinks kind)).attributesOf manga)).Is
        (points * rows.sharedCount kind manga) := by
  have hcount : (((rows.seedLinks kind).map Prod.snd).countP fun id =>
      ((AttributeIndex.ofLinks (rows.candidateLinks kind)).attributesOf manga).contains id) =
        rows.sharedCount kind manga := by
    rw [List.countP_map, ScoringRows.sharedCount]
    refine List.countP_congr fun link _ => ?_
    simp only [Function.comp, List.contains_iff_mem, AttributeIndex.mem_attributesOf_ofLinks]
  rw [mul_comm, ← hcount]
  exact is_attributeTerm hweight hpoints hquarters (by rwa [List.length_map])
    (AttributeIndex.nodup_attributesOf _ manga)

theorem sharesAny_iff (manga : Int32) :
    rows.features.authors.sharesAny manga rows.profile.authors = true ↔
      rows.SharesAuthor manga := by
  rw [AttributeIndex.sharesAny, List.any_eq_true]
  constructor
  · rintro ⟨author, hauthor, hseed⟩
    obtain ⟨link, hlink, rfl⟩ := List.mem_map.1 (IdSet.contains_ofList.1 hseed)
    exact ⟨link, hlink, AttributeIndex.mem_attributesOf_ofLinks.1 hauthor⟩
  · rintro ⟨link, hlink, hauthor⟩
    exact ⟨link.2, AttributeIndex.mem_attributesOf_ofLinks.2 hauthor,
      IdSet.contains_ofList.2 (List.mem_map_of_mem hlink)⟩

theorem toInt_years : rows.profile.years.map Int32.toInt = rows.years := by
  rw [ScoringRows.profile, Profile.ofRows, List.map_filterMap, ScoringRows.years]
  congr 1
  funext ⟨manga, date⟩
  cases date with
  | none => rfl
  | some date => exact congrArg some date.toInt_ofInt_year

theorem length_years_lt (hdates : rows.seedDates.length < 2 ^ 32) :
    rows.profile.years.length < 2 ^ 32 :=
  (List.length_filterMap_le _ _).trans_lt hdates

theorem natAbs_years_le {year : Int} (hyear : year ∈ rows.years) : year.natAbs ≤ 2 ^ 18 := by
  obtain ⟨⟨manga, date⟩, -, hdate⟩ := List.mem_filterMap.1 hyear
  cases date with
  | none => cases hdate
  | some date =>
    cases hdate
    exact date.natAbs_year_le

theorem averageRating_eq (hratings : rows.ratings ≠ []) :
    rows.profile.averageRating = some rows.meanRating := by
  have hsome : rows.profile.ratings.isEmpty = false := by
    rwa [List.isEmpty_eq_false_iff]
  rw [Profile.averageRating, hsome, if_neg Bool.false_ne_true]
  rfl

theorem averageRating_eq_none (hratings : rows.ratings = []) :
    rows.profile.averageRating = none := by
  have hnone : rows.profile.ratings = [] := hratings
  rw [Profile.averageRating, hnone]
  rfl

theorem averageYear_eq_none (hyears : rows.years = []) : rows.profile.averageYear = none := by
  rw [← toInt_years, List.map_eq_nil_iff] at hyears
  rw [Profile.averageYear, hyears]
  rfl

theorem scores_withDetails (hfew : ∀ kind, (rows.seedLinks kind).length < 2 ^ 32)
    (hdates : rows.seedDates.length < 2 ^ 32) (row : Manga) :
    rows.Scores row (withDetails row (details rows.features rows.profile
      rows.profile.averageRating rows.profile.averageYear row)) where
  id := rfl
  title := rfl
  externalRating := rfl
  cover := rfl
  genre := is_sharedTerm is_genreWeight (show 2 = ((8 : ℕ) : ℚ) / 4 by norm_num) (by decide)
    (hfew .genre) row.id
  tag := is_sharedTerm is_tagWeight (show 3 = ((12 : ℕ) : ℚ) / 4 by norm_num) (by decide)
    (hfew .tag) row.id
  demographic := is_sharedTerm is_demographicWeight (show 5 / 4 = ((5 : ℕ) : ℚ) / 4 by norm_num)
    (by decide) (hfew .demographic) row.id
  author := by
    have hterm := is_authorTerm (rows.features.authors.sharesAny row.id rows.profile.authors)
    simp only [sharesAny_iff] at hterm
    exact hterm
  rating known hknown hratings := by
    show ratingTerm row.rating rows.profile.averageRating = _
    rw [averageRating_eq hratings, hknown]
    rfl
  ratingUnknown habsent := by
    show (ratingTerm row.rating rows.profile.averageRating).Is 0
    rw [ratingTerm_of_absent (habsent.imp_right averageRating_eq_none)]
    exact Binary64.is_signedZero
  year date hdate hyears := by
    obtain ⟨mean, haverage, hmean, hsmall⟩ := Profile.averageYear_spec
      (by simpa [← toInt_years] using hyears) (length_years_lt hdates)
      fun year hyear => natAbs_years_le (toInt_years ▸ hyear)
    refine ⟨mean.toInt, toInt_years ▸ hmean, ?_⟩
    show (yearTerm row.published rows.profile.averageYear).Is _
    rw [hdate, haverage]
    exact is_yearTerm date hsmall
  yearUnknown habsent := by
    show (yearTerm row.published rows.profile.averageYear).Is 0
    rw [yearTerm_of_absent (habsent.imp_right averageYear_eq_none)]
    exact Binary64.is_signedZero
  score := rfl

end Score

/-! ## The items of a run -/

namespace Generator

/-- The items, if there are any, are all the candidates, and each has the score that the rows give
to the first rated row of its id, which is none of the seeds. -/
def ScoredFromRows (repository : Repository) (seeds : List Int32) (items : List ScoredManga) :
    Prop :=
  items = [] ∨ ∃ (rows : ScoringRows) (ids : List Int32),
    rows.AreAnswered repository seeds ids ∧ (items.map ScoredManga.id).Perm ids ∧
      ∀ item ∈ items, item.id ∉ seeds ∧ ∃ row,
        rows.candidates.find? (fun row => row.rating.isSome && row.id == item.id) = some row ∧
          rows.Scores row item

theorem scoredFromRows_of_run (hfew : repository.AnswersFewRows) {limits : Limits} {seeds : Seeds}
    {recommendation : Recommendation}
    (hrun : (run repository limits seeds).result = .ok recommendation) :
    ScoredFromRows repository seeds.ids recommendation.items := by
  obtain ⟨profile, hprofile, hselect⟩ := Traced.result_bind_eq_ok.1 hrun
  obtain ⟨candidates, hcandidates, hrank⟩ := Traced.result_bind_eq_ok.1 hselect
  obtain ⟨items, hitems, hrecommendation⟩ := Traced.result_bind_eq_ok.1 hrank
  cases hrecommendation
  by_cases hnone : candidates = []
  · subst hnone
    cases hitems
    exact .inl rfl
  obtain ⟨seedRows, rfl, hgenres, htags, hdemographics, hauthors, hratings, hdates⟩ :=
    Profile.build_eq_ok hprofile
  obtain ⟨answered, hanswered, rfl⟩ := (Candidates.select_eq_ok hcandidates).resolve_left hnone
  rw [rankCandidates, if_neg (by simpa using hnone)] at hitems
  obtain ⟨features, hfeatures, hranked⟩ := Traced.result_bind_eq_ok.1 hitems
  cases hranked
  obtain ⟨links, hlinks, rfl⟩ := Features.load_eq_ok (by simpa using hnone) hfeatures
  let rows : ScoringRows :=
    ⟨AttributeKind.rec seedRows.genres seedRows.tags seedRows.demographics seedRows.authors,
      seedRows.ratings, seedRows.dates, answered, links⟩
  have hseedLinks : ∀ kind, repository.links kind seeds.ids = .ok (rows.seedLinks kind) := by
    intro kind
    cases kind with
    | genre => exact hgenres
    | tag => exact htags
    | demographic => exact hdemographics
    | author => exact hauthors
  refine .inr ⟨rows, _, ⟨hseedLinks, hratings, hdates, ⟨_, rfl, hanswered⟩, hlinks⟩,
    Score.map_id_rankAll _ _ _, fun item hitem => ?_⟩
  obtain ⟨row, hrow, rfl⟩ := List.mem_map.1 (List.mem_mergeSort.1 hitem)
  obtain ⟨hseed, hfirst⟩ := Candidates.find?_of_mem_admissible hrow
  exact ⟨hseed, row, hfirst, Score.scores_withDetails
    (fun kind => hfew.links kind _ _ (hseedLinks kind)) (hfew.dates _ _ hdates) row⟩

/-- Every item that a list or a collection is answered with has the score that the looked up rows
give it, for any repository whose lookups answer few enough rows. -/
theorem items_scored_from_rows (repository : Repository) (hfew : repository.AnswersFewRows)
    (limits : Limits) (recommendation : Recommendation) :
    (∀ ids, (forList repository limits ids).result = .ok recommendation →
      ∃ seeds, Seeds.ofList limits.maxSeeds ids = .ok seeds ∧
        ScoredFromRows repository seeds.ids recommendation.items) ∧
    ∀ user collection,
      (forCollection repository limits user collection).result = .ok recommendation →
      ∃ seeds, (Seeds.ofCollection repository limits.maxSeeds user collection).result = .ok seeds ∧
        ScoredFromRows repository seeds.ids recommendation.items := by
  constructor
  · intro ids hresult
    obtain ⟨seeds, hseeds, hrun⟩ := Traced.result_bind_eq_ok.1 hresult
    exact ⟨seeds, hseeds, scoredFromRows_of_run hfew hrun⟩
  · intro user collection hresult
    obtain ⟨seeds, hseeds, hrun⟩ := Traced.result_bind_eq_ok.1 hresult
    exact ⟨seeds, hseeds, scoredFromRows_of_run hfew hrun⟩

/-- A store that repeats its rows: the seed 1 has the attribute 5 twice, the manga 2 as well. -/
def repeatedLinks : Repository where
  links _ ids := .ok (if 1 ∈ ids then [(1, 5), (1, 6), (1, 5)] else [(2, 5), (3, 6), (2, 5)])
  ratings _ := .ok []
  dates _ := .ok []
  candidates _ := .ok [⟨2, "Second", some .nan, none, none⟩]
  owns _ _ := .ok false
  collectionManga _ _ := .ok []
  userCollections _ := .ok []

theorem items_scored_from_rows_repeatedLinks :
    repeatedLinks.AnswersFewRows ∧ ∃ recommendation,
      (forList repeatedLinks ⟨1, 1⟩ [1]).result = .ok recommendation ∧
      recommendation.items.map ScoredManga.id = [2] ∧
      ∀ item ∈ recommendation.items, item.details.genre.Is 4 ∧ item.details.author.Is 3 := by
  have hfew : repeatedLinks.AnswersFewRows := by
    refine ⟨?_, ?_⟩
    · rintro kind ids links hlinks
      cases hlinks
      split <;> decide
    · rintro ids dates hdates
      cases hdates
      decide
  obtain ⟨recommendation, hresult, hids⟩ : ∃ recommendation,
      (forList repeatedLinks ⟨1, 1⟩ [1]).result = .ok recommendation ∧
        recommendation.items.map ScoredManga.id = [2] :=
    ⟨_, rfl, List.perm_singleton.1 (Score.map_id_rankAll _ _ _)⟩
  refine ⟨hfew, recommendation, hresult, hids, fun item hitem => ?_⟩
  obtain ⟨seeds, hseeds, hscored⟩ :=
    (items_scored_from_rows repeatedLinks hfew ⟨1, 1⟩ recommendation).1 [1] hresult
  obtain rfl : seeds = ⟨[1], 1⟩ := (Except.ok.inj hseeds).symm
  rcases hscored with hnone | ⟨rows, ids, hanswered, hperm, hitems⟩
  · rw [hnone] at hids
    cases hids
  · obtain rfl : ids = [2] := List.perm_singleton.1 (hids ▸ hperm.symm)
    have hid : item.id = 2 := List.mem_singleton.1 (hids ▸ List.mem_map_of_mem hitem)
    obtain ⟨-, row, -, hscores⟩ := hitems item hitem
    have hseedLinks : ∀ kind, rows.seedLinks kind = [(1, 5), (1, 6), (1, 5)] :=
      fun kind => (Except.ok.inj (hanswered.seedLinks kind)).symm
    have hcandidateLinks : ∀ kind, rows.candidateLinks kind = [(2, 5), (3, 6), (2, 5)] :=
      fun kind => (Except.ok.inj (hanswered.candidateLinks kind)).symm
    have hcount : rows.sharedCount .genre 2 = 2 := by
      rw [ScoringRows.sharedCount, hseedLinks, hcandidateLinks]
      decide
    have hauthor : rows.SharesAuthor 2 := by
      rw [ScoringRows.SharesAuthor, hseedLinks, hcandidateLinks]
      decide
    have hrow : row.id = 2 := hscores.id ▸ hid
    have hgenre := hscores.genre
    have hbonus := hscores.author
    rw [hrow, hcount] at hgenre
    rw [hrow, if_pos hauthor] at hbonus
    norm_num at hgenre
    exact ⟨hgenre, hbonus⟩

end Generator

end MangaRecommender
