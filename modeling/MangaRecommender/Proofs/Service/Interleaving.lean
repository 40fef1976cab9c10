import Mathlib
import MangaRecommender.Proofs.Service.Progress

/-!
# What outlives an invalidation

A deletion takes its turn behind every write that was asked for before it, and a request that
generates its items after a replacement of the tables generates them from the new ones.  But nothing
looks at the tables again when items are written, and so items that were generated before the
replacement and are written after the deletion stay in the cache.  They are the only ones: if no
such write comes between the deletion and the next read, the next answer is what the generator
finds in the new tables.
-/

namespace MangaRecommender.Service

variable {limits : Limits}

/-! ## A replacement that is invalidated -/

/-- A run in which the tables are replaced, an invalidation is asked for, and later the
recommendations for a key are; anything may happen before, between and after these. -/
structure Course where
  tables : Tables
  store : PayloadStore
  before : List Happening
  replacement : Tables
  middle : List Happening
  invalidator : Nat
  invalidation : Request
  during : List Happening
  reader : Nat
  key : CacheKey
  answering : List Happening

namespace Course

/-- The service right after the replacement. -/
def replaced (limits : Limits) (course : Course) : Traffic :=
  ((Traffic.start course.tables course.store).after limits course.before).next limits
    (.tables course.replacement)

/-- What happens from the replacement on until the invalidation is asked for. -/
def untilInvalidation (course : Course) : List Happening :=
  course.middle ++ [.ask course.invalidator course.invalidation]

/-- What happens from the replacement on until the recommendations are asked for. -/
def untilReturn (course : Course) : List Happening := course.untilInvalidation ++ course.during

def asking (course : Course) : Happening :=
  .ask course.reader (.forCollection course.key.user course.key.collection)

/-- What happens from the replacement on. -/
def sinceReplacement (course : Course) : List Happening :=
  course.untilReturn ++ [course.asking] ++ course.answering

/-- The invalidation of the key is asked for after the replacement, and it has returned when the
recommendations are asked for; until then the tables are not replaced again. -/
structure IsInvalidated (limits : Limits) (course : Course) : Prop where
  invalidates : Invalidates course.replacement course.key course.invalidation
  unreplaced : ∀ tables, .tables tables ∉ course.untilReturn
  issues : ((course.replaced limits).after limits course.middle).stages course.invalidator =
    .unasked
  returns : ((course.replaced limits).after limits course.untilReturn).stages
    course.invalidator = .answered (.ok .evicted)
  begins : ((course.replaced limits).after limits course.untilReturn).stages course.reader =
    .unasked

/-- No request that had its items for the key at hand when the tables were replaced writes them
after the deletion was issued and before the cache is read. -/
def WritesInTime (limits : Limits) (course : Course) : Prop :=
  ∀ early caller late recommendation,
    course.sinceReplacement = early ++ .advance caller :: late →
    (course.replaced limits).stages caller = .generated course.key recommendation →
    ((course.replaced limits).after limits early).stages caller =
      .generated course.key recommendation →
    (((course.replaced limits).after limits early).stages course.invalidator).hasDeleted = true →
    (((course.replaced limits).after limits early).stages course.reader).hasRead = true

variable {course : Course}

theorem isServing_replaced (limits : Limits) (course : Course) :
    (course.replaced limits).writer.IsServing :=
  Traffic.isServing_next
    (Traffic.isServing_after (Traffic.isServing_start course.tables course.store) _) _

/-- The writer came to the replacement by a run of its own. -/
theorem writer_replaced (limits : Limits) (course : Course) :
    ∃ past, (course.replaced limits).writer =
      (CacheWriter.ofServer ⟨true, false, course.store, []⟩).after past :=
  ⟨_, Traffic.writer_after (Traffic.start course.tables course.store) course.before⟩

theorem tables_untilReturn (hinvalidated : course.IsInvalidated limits)
    {early late : List Happening} (hsplit : course.untilReturn = early ++ late) :
    ((course.replaced limits).after limits early).tables = course.replacement :=
  Traffic.tables_after fun tables hmem =>
    hinvalidated.unreplaced tables (hsplit ▸ List.mem_append_left _ hmem)

theorem stages_untilInvalidation (hinvalidated : course.IsInvalidated limits) :
    ((course.replaced limits).after limits course.untilInvalidation).stages course.invalidator =
      .asked course.invalidation := by
  rw [untilInvalidation, Traffic.after_concat, Traffic.next_ask hinvalidated.issues]
  exact Traffic.stages_goneOn _ _

theorem stages_asking (hinvalidated : course.IsInvalidated limits) :
    ((course.replaced limits).after limits (course.untilReturn ++ [course.asking])).stages
      course.reader = .asked (.forCollection course.key.user course.key.collection) := by
  rw [Traffic.after_concat, asking, Traffic.next_ask hinvalidated.begins]
  exact Traffic.stages_goneOn _ _

/-- When the invalidation has returned, its deletion was issued and replied to. -/
theorem exists_deletes (hinvalidated : course.IsInvalidated limits) :
    ∃ ticket result,
      ((course.replaced limits).after limits course.untilInvalidation).Deletes limits course.during
        course.invalidator course.key ticket ∧
      (ticket, result) ∈ ((course.replaced limits).after limits course.untilReturn).writer.replies
      := by
  have htables := tables_untilReturn hinvalidated (rfl : course.untilReturn = _ ++ _)
  have hcome := Traffic.invalidating_after limits (htables ▸ hinvalidated.invalidates)
    (stages_untilInvalidation hinvalidated) fun tables hmem =>
      hinvalidated.unreplaced tables (List.mem_append_right _ hmem)
  rw [← Traffic.after_append, ← untilReturn, hinvalidated.returns] at hcome
  cases hcome with
  | evicted ticket result hdeletes hreply =>
    rw [← Traffic.after_append] at hreply
    exact ⟨ticket, result, hdeletes, hreply⟩

/-- A payload that is found after the invalidation was written after its deletion. -/
theorem exists_set_since_deletion (hinvalidated : course.IsInvalidated limits)
    {rest : List Happening} {payload : String}
    (hpayload : ((course.replaced limits).after limits
      (course.untilReturn ++ rest)).writer.server.store.get? course.key.text = some payload) :
    ∃ early late, course.untilReturn ++ rest = early ++ late ∧
      (((course.replaced limits).after limits early).stages course.invalidator).hasDeleted = true ∧
      .set course.key.text payload ∈
        ((course.replaced limits).after limits early).events limits late := by
  obtain ⟨ticket, result, hdeletes, hreply⟩ := exists_deletes hinvalidated
  obtain ⟨past, hpast⟩ := writer_replaced limits course
  have hwriter : ((course.replaced limits).after limits course.untilInvalidation).writer =
      (CacheWriter.ofServer ⟨true, false, course.store, []⟩).after
        (past ++ (course.replaced limits).events limits course.untilInvalidation) := by
    rw [Traffic.writer_after, hpast, CacheWriter.after_append]
  have hreplied := Traffic.mem_replies_append rest hreply
  rw [untilReturn, List.append_assoc, Traffic.after_append] at hpayload hreplied
  obtain ⟨early, late, hsplit, hdeleted, hset⟩ :=
    Traffic.exists_set_of_get? (Traffic.isServing_after (isServing_replaced limits course) _)
      hwriter (hdeletes.append rest) hreplied hpayload
  rw [← Traffic.after_append] at hdeleted hset
  refine ⟨_, late, ?_, hdeleted, hset⟩
  rw [untilReturn, List.append_assoc, hsplit]
  simp only [List.append_assoc, List.singleton_append]

/-- When the cache is going to be read, it holds nothing under the key but what was found since the
replacement. -/
theorem holdsFound (hinvalidated : course.IsInvalidated limits)
    (hintime : course.WritesInTime limits) {early late : List Happening}
    (hsplit : course.answering = early ++ late)
    (howned : ((course.replaced limits).after limits
      (course.untilReturn ++ [course.asking] ++ early)).stages course.reader = .owned course.key) :
    (course.replaced limits).HoldsFound limits (course.untilReturn ++ [course.asking] ++ early)
      course.key := by
  intro payload hpayload
  rw [List.append_assoc] at hpayload howned ⊢
  obtain ⟨first, second, hdeletion, hdeleted, hset⟩ :=
    exists_set_since_deletion hinvalidated hpayload
  obtain ⟨third, caller, fourth, key, recommendation, rfl, hgenerated, htext, rfl⟩ :=
    Traffic.exists_generated_of_set_mem_events hset
  obtain rfl := CacheKey.text_injective htext
  have hwhole : course.untilReturn ++ ([course.asking] ++ early) =
      (first ++ third) ++ .advance caller :: fourth := by rw [hdeletion, List.append_assoc]
  rw [hwhole] at howned ⊢
  rw [← Traffic.after_append] at hgenerated
  obtain hready | hfinds := Traffic.finds_of_stages_eq_generated hgenerated
  · -- the items were ready before the replacement, and the cache was not read yet
    have hcourse : course.sinceReplacement =
        (first ++ third) ++ .advance caller :: (fourth ++ late) := by
      rw [← List.cons_append, ← List.append_assoc _ _ late, ← hwhole, sinceReplacement, hsplit]
      simp only [List.append_assoc]
    have hlater := Traffic.hasDeleted_after limits third hdeleted
    rw [← Traffic.after_append] at hlater
    have hread := hintime _ caller _ recommendation hcourse hready hgenerated hlater
    have hstill := Traffic.hasRead_after limits (.advance caller :: fourth) hread
    rw [← Traffic.after_append, howned] at hstill
    cases hstill
  · exact ⟨recommendation, hfinds.append _, rfl⟩

end Course

/-- The tables are replaced, and after that an invalidation of a key is asked for and returns.  If
no request writes items from before the replacement between the deletion and the next read, whatever
requests there are and however they are interleaved, then a request for the key that begins after
the invalidation has returned is answered with items that the generator finds in the tables at some
moment since the replacement. -/
theorem answer_found_since_replacement (limits : Limits) (course : Course)
    (hinvalidated : course.IsInvalidated limits) (hintime : course.WritesInTime limits)
    (answer : Served)
    (hanswer : ((course.replaced limits).after limits course.sinceReplacement).stages
      course.reader = .answered (.ok (.served answer))) :
    ∃ recommendation,
      (course.replaced limits).Finds limits course.sinceReplacement course.key recommendation ∧
      answer.items.map ScoredManga.storedForm =
        recommendation.items.map ScoredManga.storedForm := by
  have hcome := Traffic.reading_after (Course.isServing_replaced limits course)
    (Course.stages_asking hinvalidated) fun early late => Course.holdsFound hinvalidated hintime
  rw [← Course.sinceReplacement, hanswer] at hcome
  cases hcome with
  | served answer recommendation hfinds hitems => exact ⟨recommendation, hfinds, hitems⟩

/-! ## A write that comes too late -/

deriving instance DecidableEq for Stage

/-- A request has its items at hand when the tables are replaced, and writes them once the
invalidation has returned; then another request reads them. -/
def lateWriter : Course where
  tables := twoManga
  store := .empty
  before := [.ask 0 (.forCollection reader 10), .advance 0, .advance 0, .advance 0]
  replacement := otherManga
  middle := []
  invalidator := 1
  invalidation := .invalidateCollection reader 10
  during := [.advance 1, .advance 1, .begin, .finish, .advance 1]
  reader := 2
  key := ⟨reader, 10⟩
  answering := [.advance 0, .begin, .finish, .advance 2, .advance 2]

/-- The same request writes its items before the invalidation is asked for, and the other one finds
nothing in the cache. -/
def earlyWriter : Course :=
  { lateWriter with
    middle := [.advance 0]
    during := [.advance 1, .advance 1, .begin, .finish, .begin, .finish, .advance 1]
    answering := [.advance 2, .advance 2, .advance 2, .advance 2] }

theorem isInvalidated_lateWriter : lateWriter.IsInvalidated ⟨5, 5⟩ where
  invalidates := .collection
  unreplaced tables hmem := by
    simp [Course.untilReturn, Course.untilInvalidation, lateWriter] at hmem
  issues := by decide +kernel
  returns := by decide +kernel
  begins := by decide +kernel

theorem isInvalidated_earlyWriter : earlyWriter.IsInvalidated ⟨5, 5⟩ where
  invalidates := .collection
  unreplaced tables hmem := by
    simp [Course.untilReturn, Course.untilInvalidation, earlyWriter, lateWriter] at hmem
  issues := by decide +kernel
  returns := by decide +kernel
  begins := by decide +kernel

/-- The first thing to happen is the write, so that nothing is left to be written later. -/
theorem writesInTime_earlyWriter : earlyWriter.WritesInTime ⟨5, 5⟩ := by
  intro early caller late recommendation hsplit hready hstill hdeleted
  by_cases hcaller : caller = 0
  · subst hcaller
    cases early with
    | nil => exact absurd hdeleted (by decide +kernel)
    | cons first early =>
      obtain rfl : Happening.advance 0 = first := (List.cons.inj hsplit).1
      have hwritten := Traffic.hasDeleted_after ⟨5, 5⟩ early
        (show (((earlyWriter.replaced ⟨5, 5⟩).next ⟨5, 5⟩ (.advance 0)).stages 0).hasDeleted = true
          by decide +kernel)
      have hwaits : (((earlyWriter.replaced ⟨5, 5⟩).after ⟨5, 5⟩ (.advance 0 :: early)).stages
          0).hasDeleted = false := by rw [hstill, Stage.hasDeleted]
      exact absurd (hwritten.symm.trans hwaits) (by decide)
  · have hbefore : ((Traffic.start twoManga .empty).after ⟨5, 5⟩ earlyWriter.before).stages caller =
        .unasked :=
      Traffic.stages_after_of_others fun happening hmem => by
        simp only [earlyWriter, lateWriter, List.mem_cons, List.not_mem_nil, or_false] at hmem
        rcases hmem with rfl | rfl | rfl | rfl <;> simp [Ne.symm hcaller]
    cases hbefore.symm.trans hready

/-- A manga of the genre of the only seed. -/
def sharingGenre (id : Int32) (title : String) : ScoredManga :=
  ⟨id, title, none, none, .ofNat 2,
    ⟨.ofNat 2, Score.zero, Score.zero, Score.zero, Score.zero, Score.zero⟩⟩

theorem answer_found_since_replacement_earlyWriter :
    earlyWriter.IsInvalidated ⟨5, 5⟩ ∧ earlyWriter.WritesInTime ⟨5, 5⟩ ∧
      ∃ answer : Served,
        ((earlyWriter.replaced ⟨5, 5⟩).after ⟨5, 5⟩ earlyWriter.sinceReplacement).stages
          earlyWriter.reader = .answered (.ok (.served answer)) ∧
        ∃ recommendation,
          (earlyWriter.replaced ⟨5, 5⟩).Finds ⟨5, 5⟩ earlyWriter.sinceReplacement earlyWriter.key
            recommendation ∧
          answer.items.map ScoredManga.storedForm =
            recommendation.items.map ScoredManga.storedForm := by
  have hanswer : ((earlyWriter.replaced ⟨5, 5⟩).after ⟨5, 5⟩ earlyWriter.sinceReplacement).stages
      earlyWriter.reader = .answered (.ok (.served
        ⟨[{ sharingGenre 3 "Third" with rating := some (.infinity true) }],
          some ⟨1, 1, false⟩⟩)) := by decide +kernel
  exact ⟨isInvalidated_earlyWriter, writesInTime_earlyWriter, _, hanswer,
    answer_found_since_replacement ⟨5, 5⟩ earlyWriter isInvalidated_earlyWriter
      writesInTime_earlyWriter _ hanswer⟩

/-- Although the invalidation has returned, the answer has the items that were found in the tables
before they were replaced, and that are found in none since. -/
theorem stale_answer_lateWriter :
    lateWriter.IsInvalidated ⟨5, 5⟩ ∧
      (Generator.forCollection (lateWriter.tables.repository .none) ⟨5, 5⟩ reader 10).result.map
        (fun recommendation => recommendation.items.map ScoredManga.storedForm) =
          .ok [sharingGenre 2 "Second"] ∧
      ((lateWriter.replaced ⟨5, 5⟩).after ⟨5, 5⟩ lateWriter.sinceReplacement).stages
        lateWriter.reader = .answered (.ok (.served ⟨[sharingGenre 2 "Second"], none⟩)) ∧
      ¬∃ recommendation,
        (lateWriter.replaced ⟨5, 5⟩).Finds ⟨5, 5⟩ lateWriter.sinceReplacement lateWriter.key
          recommendation ∧
        [sharingGenre 2 "Second"].map ScoredManga.storedForm =
          recommendation.items.map ScoredManga.storedForm := by
  refine ⟨isInvalidated_lateWriter, by decide +kernel, by decide +kernel, ?_⟩
  rintro ⟨recommendation, ⟨early, late, hsplit, hrun⟩, hitems⟩
  have htables : ((lateWriter.replaced ⟨5, 5⟩).after ⟨5, 5⟩ early).tables = otherManga :=
    Traffic.tables_after fun tables hmem => by
      have hsince : .tables tables ∈ lateWriter.sinceReplacement :=
        hsplit ▸ List.mem_append_left late hmem
      simp [Course.sinceReplacement, Course.untilReturn, Course.untilInvalidation, Course.asking,
        lateWriter] at hsince
  have hfresh : (Generator.forCollection (otherManga.repository .none) ⟨5, 5⟩ reader 10).result.map
      (fun recommendation => recommendation.items.map ScoredManga.storedForm) =
        .ok [sharingGenre 3 "Third"] := by decide +kernel
  have hresult : (Generator.forCollection (otherManga.repository .none) ⟨5, 5⟩ reader 10).result =
      .ok recommendation := by
    rw [htables] at hrun
    exact hrun
  rw [hresult, Except.map, ← hitems] at hfresh
  exact absurd hfresh (by decide +kernel)

end MangaRecommender.Service
