import Mathlib
import MangaRecommender.Http.Run
import MangaRecommender.Proofs.Generator.Outcome
import MangaRecommender.Proofs.Generator.Stages
import MangaRecommender.Proofs.Http.Gateway
import MangaRecommender.Proofs.Page.Cuts
import MangaRecommender.Proofs.Service.Payload
import MangaRecommender.Proofs.Service.Provenance
import MangaRecommender.Proofs.Service.Transparency

/-!
# Pages before and after a collection is cached

The first request for a page of a collection generates and stores its items; the requests behind
it order and cut what was stored.  All of them show pages of lists of the same length, and these
are one list unless ratings are compared that have no text.
-/

namespace MangaRecommender

/-- A collection with something in it has seeds, if there is a place for one. -/
theorem Seeds.ofCollection_of_ne_nil {repository : Repository} {maxSeeds : Nat} {user : Uuid}
    {collection : Int32} {manga : List Int32}
    (hmanga : repository.collectionManga user collection = .ok manga) (hfilled : manga ≠ [])
    (hplace : 0 < maxSeeds) :
    (ofCollection repository maxSeeds user collection).result = .ok (capped maxSeeds manga) := by
  have hseeds : (capped maxSeeds manga).isEmpty = false := by
    obtain ⟨first, rest, rfl⟩ := List.exists_cons_of_ne_nil hfilled
    obtain ⟨places, rfl⟩ := Nat.exists_eq_succ_of_ne_zero hplace.ne'
    simp [capped, isEmpty, firstOccurrences]
  have hresolved : (ofCollection repository maxSeeds user collection).result =
      (capped maxSeeds manga).orElse .emptyCollection :=
    congrArg Traced.result (Traced.bind_of_ok hmanga _)
  rw [hresolved, orElse, if_neg (Bool.eq_false_iff.1 hseeds)]

namespace Http

/-- A request for a page of a collection in a given order. -/
structure PageRequest (key : CacheKey) (field : SortField) (direction : SortDirection) where
  request : Request
  segment : String
  page : Nat
  size : Nat
  isGet : request.method = "GET"
  endpoint : Endpoint.ofPath? request.target.path = some (.collection segment)
  user : request.user = .ok key.user
  collection : collectionOf segment = .ok key.collection
  parameters : request.listParameters = .ok ⟨field, direction, page, size⟩
  page_pos : 1 ≤ page
  size_pos : 1 ≤ size
  size_le : size ≤ 100

namespace PageRequest

variable {key : CacheKey} {field : SortField} {direction : SortDirection}
  (wanted : PageRequest key field direction)

/-- The page that is wanted of what is served. -/
def pageOf (served : Served) : Page where
  total := served.items.length
  page := wanted.page
  size := wanted.size
  items := ListParameters.cut wanted.page wanted.size (sortItems field direction served.items)
  seeds := served.seeds

theorem writePage_eq (served : Served) :
    writePage ⟨field, direction, wanted.page, wanted.size⟩ served =
      .ok (.json 200 (wanted.pageOf served).write) := by
  have hvalid : ListParameters.validate ⟨field, direction, wanted.page, wanted.size⟩ = .ok () :=
    ListParameters.validate_of_bounds wanted.page_pos wanted.size_pos wanted.size_le
  rw [writePage, ListParameters.paginate_of_validate hvalid]
  rfl

theorem asks : Asks wanted.request (.collection wanted.segment)
    (.recommendForCollection key.user key.collection
      ⟨field, direction, wanted.page, wanted.size⟩) :=
  .collection wanted.user wanted.collection wanted.parameters

/-- What is served for an admitted request is shown as the page that it wants. -/
theorem handle_eq {limits : Limits} {repository : Repository} {state : State}
    (hadmitted : (state.limiter.check wanted.request.client).1 = true) {served : Served}
    {cache : Cache} {cacheCalls : List CacheCall} {lookups : List Lookup}
    (hreply : Service.forCollection limits repository state.cache key.user key.collection =
      ⟨.ok served, cache, cacheCalls, lookups⟩) :
    handle limits repository state wanted.request =
      ⟨.json 200 (wanted.pageOf served).write,
        ⟨cache, (state.limiter.check wanted.request.client).2⟩, cacheCalls, lookups⟩ := by
  have hcharge : charge state (.collection wanted.segment) wanted.request =
      (true, { state with limiter := (state.limiter.check wanted.request.client).2 }) := by
    simp only [charge, Endpoint.isLimited, if_true, ← hadmitted]
  have hmethod : wanted.request.method ∈ (Endpoint.collection wanted.segment).methods := by
    rw [wanted.isGet]
    exact List.mem_cons_self
  rw [handle_of_asks limits repository state wanted.endpoint (by rw [hcharge]) hmethod wanted.asks,
    Exchange.seen_of_get _ _ _ wanted.isGet, hcharge]
  simp only [Task.perform, conclude, hreply, Except.bind, wanted.writePage_eq served]

/-- A response shows the wanted page of an ordered list of items, which are given as they are
written. -/
def Shows (ordered : List (List Char)) (seeds : Option SeedSummary) (response : Response) : Prop :=
  ∃ page : Page, response = .json 200 page.write ∧ page.total = ordered.length ∧
    page.page = wanted.page ∧ page.size = wanted.size ∧
    page.items.map ScoredManga.write = ListParameters.cut wanted.page wanted.size ordered ∧
    page.seeds = seeds

theorem shows_pageOf (served : Served) :
    wanted.Shows ((sortItems field direction served.items).map ScoredManga.write) served.seeds
      (.json 200 (wanted.pageOf served).write) :=
  ⟨wanted.pageOf served, rfl, by simp [pageOf, sortItems], rfl, rfl,
    ListParameters.map_cut _ _ _ _, rfl⟩

end PageRequest

/-! ## Runs -/

/-- Every call succeeds, and the user of the key owns its collection. -/
structure Site.Serves (site : Site) (key : CacheKey) : Prop where
  owned : site.world.tables.ownsCollection key.user key.collection = true
  outages : site.world.outages = .none
  failing : site.world.cache.failing = []

/-- The clients of requests find a place in the quotas, one after the other. -/
def Site.Admits (site : Site) (clients : List IpAddress) : Prop :=
  ∀ admitted ∈ site.limiter.checkAll clients, admitted = true

section Runs

variable (limits : Limits) {site : Site} {key : CacheKey} {field : SortField}
  {direction : SortDirection}

theorem Site.Serves.owns (hserves : site.Serves key) :
    site.world.repository.owns key.user key.collection = .ok true := by
  simp only [World.repository, hserves.outages, Tables.repository, Tables.unlessFailing,
    Outages.none, hserves.owned]

/-- A hit takes its place in the quotas and leaves the rest of the site as it was. -/
theorem step_of_cached (hserves : site.Serves key) {items : List ScoredManga}
    (hcached : Service.cached site.world.cache key = some items)
    (wanted : PageRequest key field direction)
    (hadmitted : (site.limiter.check wanted.request.client).1 = true) :
    let limiter := (site.limiter.check wanted.request.client).2
    site.step limits (.request wanted.request) =
      (some ⟨.json 200 (wanted.pageOf ⟨items, none⟩).write, ⟨site.world.cache, limiter⟩,
        [.get key.text], [.owns key.user key.collection]⟩, { site with limiter }) := by
  have hreply : Service.forCollection limits site.world.repository site.state.cache key.user
      key.collection = _ :=
    Service.forCollection_of_cached limits site.world.repository site.world.cache hserves.owns
      hcached
  simp only [Site.step, wanted.handle_eq hadmitted hreply]
  rfl

/-- Requests for a stored collection are all answered with what is stored. -/
theorem exchanges_of_cached {items : List ScoredManga}
    (wanted : List (PageRequest key field direction)) (hserves : site.Serves key)
    (hcached : Service.cached site.world.cache key = some items)
    (hadmits : site.Admits (wanted.map fun wanted => wanted.request.client)) :
    ∃ hits, site.exchanges limits (wanted.map fun wanted => .request wanted.request) =
        hits.map some ∧
      List.Forall₂ (fun wanted hit => hit.cacheCalls = [.get key.text] ∧
        hit.response = .json 200 (wanted.pageOf ⟨items, none⟩).write) wanted hits := by
  induction wanted generalizing site with
  | nil => exact ⟨[], rfl, .nil⟩
  | cons first rest ih =>
    have hstep := step_of_cached limits hserves hcached first (hadmits _ List.mem_cons_self)
    have hserves' : Site.Serves
        { site with limiter := (site.limiter.check first.request.client).2 } key :=
      ⟨hserves.owned, hserves.outages, hserves.failing⟩
    obtain ⟨hits, hexchanges, hshown⟩ := ih hserves' hcached
      fun admitted hmem => hadmits admitted (List.mem_cons_of_mem _ hmem)
    simp only [List.map_cons, Site.exchanges, hstep, hexchanges]
    exact ⟨_ :: hits, rfl, .cons ⟨rfl, rfl⟩ hshown⟩

/-- What was generated is stored if the cache works, and is found in its stored form. -/
theorem cached_remember {repository : Repository} {cache : Cache} {recommendation : Recommendation}
    (hfailing : cache.failing = [])
    (hrun : (Generator.forCollection repository limits key.user key.collection).result =
      .ok recommendation) :
    Service.cached (Service.remember cache key recommendation.items) key =
      some (recommendation.items.map ScoredManga.storedForm) := by
  refine Service.cached_eq_some_iff.2 ⟨?_, ScoredManga.encodeList recommendation.items, ?_,
    Generator.decodeList?_of_forCollection hrun⟩
  · rw [Service.remember, Cache.failing_write, hfailing]
    exact List.not_mem_nil
  · rw [Service.remember, Cache.get?_write, hfailing, if_pos ⟨List.not_mem_nil, rfl⟩]

/-- A miss takes its place in the quotas and stores what it generates. -/
theorem step_of_absent (hserves : site.Serves key)
    (habsent : site.world.cache.store.get? key.text = none) {recommendation : Recommendation}
    (hrun : (Generator.forCollection site.world.repository limits key.user key.collection).result =
      .ok recommendation)
    (wanted : PageRequest key field direction)
    (hadmitted : (site.limiter.check wanted.request.client).1 = true) :
    let cache := Service.remember site.world.cache key recommendation.items
    let limiter := (site.limiter.check wanted.request.client).2
    site.step limits (.request wanted.request) =
      (some ⟨.json 200 (wanted.pageOf (Service.served recommendation)).write, ⟨cache, limiter⟩,
        [.get key.text, .set key.text (ScoredManga.encodeList recommendation.items)],
        .owns key.user key.collection ::
          (Generator.forCollection site.world.repository limits key.user key.collection).lookups⟩,
        ⟨{ site.world with cache }, limiter⟩) := by
  have hmissed : ∀ items, ¬site.world.cache.Holds key items := by
    rintro items ⟨-, payload, hpayload, -⟩
    cases habsent.symm.trans hpayload
  have hreply : Service.forCollection limits site.world.repository site.state.cache key.user
      key.collection = _ :=
    Service.forCollection_of_missed_ok limits site.world.repository site.world.cache key
      hserves.owns hmissed hrun
  simp only [Site.step, wanted.handle_eq hadmitted hreply]
  rfl

/-- The first of some requests for a collection is a miss, and all others are hits. -/
theorem exchanges_of_absent (hserves : site.Serves key)
    (habsent : site.world.cache.store.get? key.text = none) {recommendation : Recommendation}
    (hrun : (Generator.forCollection site.world.repository limits key.user key.collection).result =
      .ok recommendation)
    (first : PageRequest key field direction) (rest : List (PageRequest key field direction))
    (hadmits : site.Admits ((first :: rest).map fun wanted => wanted.request.client)) :
    ∃ miss hits,
      site.exchanges limits ((first :: rest).map fun wanted => .request wanted.request) =
        some miss :: hits.map some ∧
      miss.cacheCalls = [.get key.text,
        .set key.text (ScoredManga.encodeList recommendation.items)] ∧
      miss.response = .json 200 (first.pageOf (Service.served recommendation)).write ∧
      List.Forall₂ (fun wanted hit => hit.cacheCalls = [.get key.text] ∧ hit.response =
        .json 200 (wanted.pageOf
          ⟨recommendation.items.map ScoredManga.storedForm, none⟩).write) rest hits := by
  have hstep := step_of_absent limits hserves habsent hrun first (hadmits _ List.mem_cons_self)
  have hserves' : Site.Serves ⟨{ site.world with
      cache := Service.remember site.world.cache key recommendation.items },
      (site.limiter.check first.request.client).2⟩ key :=
    ⟨hserves.owned, hserves.outages, (Cache.failing_write _ _ _).trans hserves.failing⟩
  obtain ⟨hits, hexchanges, hshown⟩ := exchanges_of_cached limits rest hserves'
    (cached_remember limits hserves.failing hrun)
    fun admitted hmem => hadmits admitted (List.mem_cons_of_mem _ hmem)
  simp only [List.map_cons, Site.exchanges, hstep, hexchanges]
  exact ⟨_, hits, rfl, rfl, rfl, hshown⟩

/-- A collection with something in it is answered if every call succeeds. -/
theorem Site.Serves.exists_recommendation (hserves : site.Serves key) {manga : List Int32}
    (hmanga : site.world.tables.collectionManga key.user key.collection = .ok manga)
    (hfilled : manga ≠ []) (hplace : 0 < limits.maxSeeds) :
    ∃ recommendation,
      (Generator.forCollection site.world.repository limits key.user key.collection).result =
        .ok recommendation := by
  rw [World.repository, hserves.outages]
  have hcollection : (site.world.tables.repository .none).collectionManga key.user
      key.collection = .ok manga := hmanga
  have hseeds := Seeds.ofCollection_of_ne_nil hcollection hfilled hplace
  obtain ⟨recommendation, hrun⟩ := Generator.exists_run_of_answersRows
    site.world.tables.answersRows limits (.capped limits.maxSeeds manga)
  exact ⟨recommendation, Traced.result_bind_eq_ok.2 ⟨_, hseeds, hrun⟩⟩

/-- The first request for a page of a collection with something in it, and any requests for pages
in the same order behind it, show pages of two arrangements of the same written items.  These are
one list unless a rating is compared that is infinite or not a number, and the pages of one size
put end to end are that list. -/
theorem pages_before_and_after_caching (hserves : site.Serves key)
    (habsent : site.world.cache.store.get? key.text = none) {manga : List Int32}
    (hmanga : site.world.tables.collectionManga key.user key.collection = .ok manga)
    (hfilled : manga ≠ []) (hplace : 0 < limits.maxSeeds)
    (first : PageRequest key field direction) (rest : List (PageRequest key field direction))
    (hadmits : site.Admits ((first :: rest).map fun wanted => wanted.request.client)) :
    ∃ recommendation,
      (Generator.forCollection site.world.repository limits key.user key.collection).result =
        .ok recommendation ∧
      ∃ fresh stored : List (List Char),
        fresh = (sortItems field direction recommendation.items).map ScoredManga.write ∧
        stored.Perm fresh ∧
        ((field = .rating → ∀ item ∈ recommendation.items, ∀ rating ∈ item.rating,
          rating.isNaN = false ∧ rating.isInfinite = false) → stored = fresh) ∧
        (∃ miss hits,
          site.exchanges limits ((first :: rest).map fun wanted => .request wanted.request) =
            some miss :: hits.map some ∧
          miss.cacheCalls = [.get key.text,
            .set key.text (ScoredManga.encodeList recommendation.items)] ∧
          first.Shows fresh (some recommendation.seeds) miss.response ∧
          List.Forall₂ (fun wanted hit => hit.cacheCalls = [.get key.text] ∧
            wanted.Shows stored none hit.response) rest hits) ∧
        ∀ size count, fresh.length ≤ count * size →
          ((List.range count).map fun index =>
            ListParameters.cut (index + 1) size fresh).flatten = fresh := by
  obtain ⟨recommendation, hrun⟩ :=
    hserves.exists_recommendation limits hmanga hfilled hplace
  refine ⟨recommendation, hrun, _, (sortItems field direction
    (recommendation.items.map ScoredManga.storedForm)).map ScoredManga.write, rfl, ?_,
    fun hratings => ?_, ?_, fun size count hlength => ?_⟩
  · refine ((sortItems_perm _ _ _).map ScoredManga.write).trans ?_
    rw [ScoredManga.map_write_storedForm]
    exact ((sortItems_perm _ _ _).map ScoredManga.write).symm
  · have hfinite : field = .rating →
        ∀ item ∈ recommendation.items, ∀ rating ∈ item.rating, rating.isFinite = true := by
      intro hfield item hitem rating hrating
      obtain ⟨hnumber, hbounded⟩ := hratings hfield item hitem rating hrating
      rw [Binary64.isFinite_eq, hnumber, hbounded]
      rfl
    rw [sortItems_map_storedForm direction hfinite, ScoredManga.map_write_storedForm]
  · obtain ⟨miss, hits, hexchanges, hcalls, hmiss, hhits⟩ :=
      exchanges_of_absent limits hserves habsent hrun first rest hadmits
    refine ⟨miss, hits, hexchanges, hcalls, hmiss ▸ first.shows_pageOf _, hhits.imp ?_⟩
    rintro wanted hit ⟨hhitCalls, hresponse⟩
    exact ⟨hhitCalls, hresponse ▸ wanted.shows_pageOf ⟨_, none⟩⟩
  · rw [ListParameters.flatten_cuts, List.take_of_length_le hlength]

end Runs

/-! ## Two orders of one collection -/

/-- A request of one client for a collection of the reader. -/
def readersRequest (query : String) : Request where
  method := "GET"
  target := ⟨"/api/v1/recommendations/10".toList, query.toList⟩
  headers := [("x-user-id", "00000000-0000-0000-0000-000000000007")]
  body := ""
  client := .v4 [127, 0, 0, 1]

def byTitle : PageRequest ⟨Service.reader, 10⟩ .title .ascending where
  request := readersRequest "order_by=title&order_dir=asc&size=1"
  segment := "10"
  page := 1
  size := 1
  isGet := rfl
  endpoint := by decide +kernel
  user := by decide +kernel
  collection := by decide +kernel
  parameters := by decide +kernel
  page_pos := by decide
  size_pos := by decide
  size_le := by decide

def byRating : PageRequest ⟨Service.reader, 10⟩ .rating .ascending where
  request := readersRequest "order_by=external_average_rating&order_dir=asc"
  segment := "10"
  page := 1
  size := 20
  isGet := rfl
  endpoint := by decide +kernel
  user := by decide +kernel
  collection := by decide +kernel
  parameters := by decide +kernel
  page_pos := by decide
  size_pos := by decide
  size_le := by decide

/-- Three manga of one genre, the second one with an infinite rating, and a collection of one
user. -/
def threeManga (collected : List Int32) : Tables where
  manga := [⟨1, "First", none, none, none⟩, ⟨2, "Second", some (.infinity false), none, none⟩,
    ⟨3, "Third", some (.ofNat 5), none, none⟩]
  links kind := if kind = .genre then [(1, 5), (2, 5), (3, 5)] else []
  collections := [⟨10, Service.reader, collected⟩]
  fixedCandidates := none

/-- A site that nobody has asked anything yet. -/
def freshSite (collected : List Int32) : Site := ⟨.ofTables (threeManga collected), .ofLimits 5 5⟩

theorem serves_freshSite (collected : List Int32) :
    (freshSite collected).Serves ⟨Service.reader, 10⟩ :=
  ⟨rfl, rfl, rfl⟩

theorem pages_before_and_after_caching_byTitle :
    (freshSite [1]).Serves ⟨Service.reader, 10⟩ ∧
      (freshSite [1]).world.cache.store.get? (CacheKey.text ⟨Service.reader, 10⟩) = none ∧
      (threeManga [1]).collectionManga Service.reader 10 = .ok [1] ∧ [(1 : Int32)] ≠ [] ∧
      (freshSite [1]).Admits ([byTitle, byTitle].map fun wanted => wanted.request.client) ∧
      ∃ ordered seeds miss hit,
        (freshSite [1]).exchanges ⟨5, 5⟩
          ([byTitle, byTitle].map fun wanted => .request wanted.request) =
          [some miss, some hit] ∧
        byTitle.Shows ordered (some seeds) miss.response ∧
        byTitle.Shows ordered none hit.response := by
  have hmanga : (threeManga [1]).collectionManga Service.reader 10 = .ok [1] := rfl
  have hadmits : (freshSite [1]).Admits
      ([byTitle, byTitle].map fun wanted => wanted.request.client) := by
    unfold Site.Admits
    decide +kernel
  obtain ⟨recommendation, -, fresh, stored, -, -, hsame, ⟨miss, hits, hexchanges, -, hmiss,
    hhits⟩, -⟩ := pages_before_and_after_caching ⟨5, 5⟩ (serves_freshSite [1]) rfl hmanga
      (List.cons_ne_nil _ _) (by decide) byTitle [byTitle] hadmits
  cases hhits with
  | cons hhit hnone =>
    cases hnone
    rw [hsame nofun] at hhit
    exact ⟨serves_freshSite [1], rfl, hmanga, List.cons_ne_nil _ _, hadmits, fresh, _, miss, _,
      hexchanges, hmiss, hhit.2⟩

/-! ### Where the pages differ -/

theorem mergeSort_pair {Item : Type} (mayPrecede : Item → Item → Bool) (left right : Item) :
    [left, right].mergeSort mayPrecede =
      if mayPrecede left right then [left, right] else [right, left] := by
  simp [List.mergeSort, List.merge]

/-- What is generated for the collection of the first manga. -/
def generated : Recommendation where
  items :=
    [⟨2, "Second", some (.infinity false), none, .ofNat 2,
      ⟨.ofNat 2, Score.zero, Score.zero, Score.zero, Score.zero, Score.zero⟩⟩,
    ⟨3, "Third", some (.ofNat 5), none, .ofNat 2,
      ⟨.ofNat 2, Score.zero, Score.zero, Score.zero, Score.zero, Score.zero⟩⟩]
  seeds := ⟨1, 1, false⟩

/-- The profile of the first manga. -/
def firstProfile : Profile := .ofRows ⟨[(1, 5)], [], [], [], [(1, none)], [(1, none)]⟩

/-- The two manga that can be recommended. -/
def ratedManga : List Manga := (threeManga [1]).manga.drop 1

/-- The genre that they share. -/
def ratedFeatures : Features := ⟨.ofLinks [(2, 5), (3, 5)], .ofLinks [], .ofLinks [], .ofLinks []⟩

theorem result_select_ratedManga :
    (Candidates.select (freshSite [1]).world.repository [1] firstProfile 5).result =
      .ok ratedManga := by
  have hqualified : (threeManga [1]).manga.filter
      ((threeManga [1]).qualifies (Candidates.query [1] firstProfile 5)) = ratedManga := by
    decide +kernel
  have hcandidates : (threeManga [1]).candidates (Candidates.query [1] firstProfile 5) =
      ratedManga := by
    change List.take 5 (List.mergeSort (List.filter _ _) _) = _
    rw [hqualified]
    change List.take 5 (List.mergeSort [_, _] _) = _
    rw [mergeSort_pair, if_pos (by decide)]
    rfl
  rw [Candidates.select_of_classifiable _ _ (by decide +kernel)]
  change Except.map _ (Except.ok ((threeManga [1]).candidates _)) = _
  rw [hcandidates]
  decide +kernel

theorem rankAll_ratedManga :
    Score.rankAll ratedFeatures firstProfile ratedManga = generated.items := by
  have hscored : ratedManga.map (fun manga => Score.withDetails manga (Score.details ratedFeatures
      firstProfile firstProfile.averageRating firstProfile.averageYear manga)) =
      generated.items := by
    decide +kernel
  simp only [Score.rankAll]
  rw [hscored, generated, mergeSort_pair, if_pos (by decide +kernel)]

theorem result_generated :
    (Generator.forCollection (freshSite [1]).world.repository ⟨5, 5⟩ Service.reader 10).result =
      .ok generated := by
  refine Traced.result_bind_eq_ok.2 ⟨⟨[1], 1⟩, rfl, ?_⟩
  refine Traced.result_bind_eq_ok.2 ⟨firstProfile, rfl, ?_⟩
  refine Traced.result_bind_eq_ok.2 ⟨ratedManga, result_select_ratedManga, ?_⟩
  have hitems : (Generator.rankCandidates (freshSite [1]).world.repository firstProfile
      ratedManga).result = .ok generated.items :=
    congrArg Except.ok rankAll_ratedManga
  exact Traced.result_bind_eq_ok.2 ⟨_, hitems, rfl⟩

theorem items_pageOf_generated (seeds : Option SeedSummary) :
    (byRating.pageOf ⟨generated.items, seeds⟩).items = generated.items.reverse := by
  change ListParameters.cut 1 20 (List.mergeSort [_, _] _) = _
  rw [mergeSort_pair, if_neg (by decide +kernel)]
  rfl

theorem items_pageOf_stored (seeds : Option SeedSummary) :
    (byRating.pageOf ⟨generated.items.map ScoredManga.storedForm, seeds⟩).items =
      generated.items.map ScoredManga.storedForm := by
  change ListParameters.cut 1 20 (List.mergeSort [_, _] _) = _
  rw [mergeSort_pair, if_pos (by decide +kernel)]
  rfl

/-- Nothing fails, the user owns the collection and nothing is cached.  Still there is no page of an
empty collection, there is none for a client without a place in the quotas, and the first page by
ratings shows an infinite rating above all others while it is fresh and below them once it is
stored. -/
theorem pages_differ_after_caching :
    let requests := [byRating.request, byRating.request]
    (∀ collected, (freshSite collected).Serves ⟨Service.reader, 10⟩ ∧
      (freshSite collected).world.cache.store.get? (CacheKey.text ⟨Service.reader, 10⟩) = none ∧
      (freshSite collected).Admits (requests.map Request.client)) ∧
    ((freshSite []).exchanges ⟨5, 5⟩ (requests.map .request)).map
      (Option.map fun exchange => exchange.response.status) = [some 400, some 400] ∧
    (Site.exchanges ⟨5, 5⟩ { freshSite [4] with limiter := .ofLimits 1 5 }
        (requests.map .request)).map
      (Option.map fun exchange => exchange.response.status) = [some 200, some 429] ∧
    ∃ before after : Page,
      ((freshSite [1]).exchanges ⟨5, 5⟩ (requests.map .request)).map
        (Option.map Exchange.response) =
          [some (.json 200 before.write), some (.json 200 after.write)] ∧
      before.items.map ScoredManga.title = ["Third", "Second"] ∧
      after.items.map ScoredManga.title = ["Second", "Third"] ∧
      before.items.map ScoredManga.write ≠ after.items.map ScoredManga.write := by
  intro requests
  have hadmits : ∀ collected, (freshSite collected).Admits (requests.map Request.client) := by
    intro collected
    change ∀ admitted ∈ (RateLimiter.ofLimits 5 5).checkAll _, admitted = true
    decide +kernel
  obtain ⟨miss, hits, hexchanges, -, hmiss, hhits⟩ := exchanges_of_absent ⟨5, 5⟩
    (serves_freshSite [1]) rfl result_generated byRating [byRating] (hadmits [1])
  cases hhits with
  | cons hhit hnone =>
    cases hnone
    refine ⟨fun collected => ⟨serves_freshSite collected, rfl, hadmits collected⟩,
      by decide +kernel, by decide +kernel, byRating.pageOf (Service.served generated),
      byRating.pageOf ⟨generated.items.map ScoredManga.storedForm, none⟩, ?_, ?_, ?_, ?_⟩
    · rw [← hmiss, ← hhit.2]
      exact congrArg (List.map (Option.map Exchange.response)) hexchanges
    · rw [Service.served, items_pageOf_generated]
      rfl
    · rw [items_pageOf_stored]
      rfl
    · rw [Service.served, items_pageOf_generated, items_pageOf_stored]
      decide +kernel

end Http

end MangaRecommender
