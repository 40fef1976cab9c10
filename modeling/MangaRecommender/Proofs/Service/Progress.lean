import Mathlib
import MangaRecommender.Proofs.Service.Coherence
import MangaRecommender.Proofs.Service.Traffic

/-!
# How far requests come among others

Items that are written were generated from tables of the run or were at hand before it.  An
invalidation comes to issue a deletion that takes its key with it, and once this is replied to a
payload under the key comes from a later write.  A request for the key answers with a payload that
it finds or with what it generates itself.
-/

namespace MangaRecommender.Service

variable {limits : Limits}

namespace Stage

/-- The deletion was issued, if there is one. -/
def hasDeleted : Stage → Bool
  | awaiting _ | answered _ => true
  | unasked | asked _ | owned _ | missed _ | generated _ _ | evicting _ => false

/-- The cache will not be read any more. -/
def hasRead : Stage → Bool
  | missed _ | generated _ _ | evicting _ | awaiting _ | answered _ => true
  | unasked | asked _ | owned _ => false

section Moves

variable {repository : Repository} {writer : CacheWriter} {stage after : Stage}
  {events : List CacheWriter.Event}

theorem Moves.hasDeleted (hmoves : Moves limits repository writer stage events after)
    (hdeleted : stage.hasDeleted = true) : after.hasDeleted = true := by
  cases hmoves <;> first | rfl | cases hdeleted

theorem Moves.hasRead (hmoves : Moves limits repository writer stage events after)
    (hread : stage.hasRead = true) : after.hasRead = true := by
  cases hmoves <;> first | rfl | cases hread

theorem Moves.result_of_generated {key : CacheKey} {recommendation : Recommendation}
    (hmoves : Moves limits repository writer stage events (.generated key recommendation)) :
    (Generator.forCollection repository limits key.user key.collection).result =
      .ok recommendation := by
  cases hmoves with
  | generated _ _ hrun => exact hrun

/-- Only a request with its items at hand writes, and it writes these. -/
theorem Moves.exists_generated_of_set {text payload : String}
    (hmoves : Moves limits repository writer stage events after)
    (hset : .set text payload ∈ events) :
    ∃ key recommendation, stage = .generated key recommendation ∧ text = key.text ∧
      payload = ScoredManga.encodeList recommendation.items := by
  cases hmoves with
  | written key recommendation =>
    obtain ⟨rfl, rfl⟩ : text = key.text ∧
        payload = ScoredManga.encodeList recommendation.items := by simpa using hset
    exact ⟨key, recommendation, rfl, rfl, rfl⟩
  | _ => simp at hset

/-- A request for a key fails or goes on to look for it in the cache. -/
theorem Moves.of_forCollection {key : CacheKey}
    (hmoves : Moves limits repository writer (.asked (.forCollection key.user key.collection))
      events after) :
    after = .owned key ∨ ∃ failure, after = .answered (.error failure) := by
  generalize hstage : Stage.asked (.forCollection key.user key.collection) = stage at hmoves
  cases hmoves with
  | refused request failure => exact .inr ⟨failure, rfl⟩
  | owned other =>
    have hkey : key = other := by
      cases key
      cases other
      simpa using hstage
    exact .inl (congrArg Stage.owned hkey.symm)
  | _ => simp at hstage

/-- An invalidation fails or goes on to evict the key. -/
theorem Moves.of_invalidates {tables : Tables} {outages : Outages} {key : CacheKey}
    {request : Request} (hinvalidates : Invalidates tables key request)
    (hmoves : Moves limits (tables.repository outages) writer (.asked request) events after) :
    (∃ keys, key ∈ keys ∧ after = .evicting keys) ∨
      ∃ failure, after = .answered (.error failure) := by
  generalize hstage : Stage.asked request = stage at hmoves
  cases hinvalidates with
  | collection =>
    cases hmoves with
    | refused request failure => exact .inr ⟨failure, rfl⟩
    | evictsCollection other =>
      have hkey : key = other := by
        cases key
        cases other
        simpa using hstage
      exact .inl ⟨[other], List.mem_singleton.2 hkey, rfl⟩
    | _ => simp at hstage
  | user howns =>
    cases hmoves with
    | refused request failure => exact .inr ⟨failure, rfl⟩
    | evictsUser user collections howned =>
      obtain rfl : key.user = user := by simpa using hstage
      obtain rfl : tables.userCollections key.user = collections :=
        Except.ok.inj (Tables.eq_of_unlessFailing_eq_ok howned).2
      exact .inl ⟨_, List.mem_map_of_mem (mem_userCollections howns), rfl⟩
    | _ => simp at hstage

end Moves

/-- Keys are deleted by one call, and its ticket is waited for. -/
theorem advance_evicting (limits : Limits) (repository : Repository) (writer : CacheWriter)
    {keys : List CacheKey}
    {key : CacheKey} (hkey : key ∈ keys) :
    advance limits repository writer (.evicting keys) =
      ([.delete (keys.map CacheKey.text)], .awaiting writer.tickets) := by
  cases keys with
  | nil => cases hkey
  | cons => rfl

end Stage

namespace Traffic

variable {traffic : Traffic} {caller : Nat} {happenings : List Happening}

theorem after_concat (traffic : Traffic) (happenings : List Happening) (last : Happening) :
    traffic.after limits (happenings ++ [last]) =
      (traffic.after limits happenings).next limits last :=
  after_append traffic happenings [last]

/-- What a request that was asked keeps when it moves on it keeps in a run. -/
theorem stages_after_of_moves {keeps : Stage → Bool} (hunasked : keeps .unasked = false)
    (hmoves : ∀ {repository writer stage events after},
      Stage.Moves limits repository writer stage events after → keeps stage = true →
        keeps after = true)
    (happenings : List Happening) (hkeeps : keeps (traffic.stages caller) = true) :
    keeps ((traffic.after limits happenings).stages caller) = true := by
  induction happenings generalizing traffic with
  | nil => exact hkeeps
  | cons happening rest ih =>
    refine ih ?_
    obtain ⟨-, hmove⟩ | ⟨request, -, hbefore, -⟩ | hstays :=
      stages_next limits traffic happening caller
    · exact hmoves hmove hkeeps
    · rw [hbefore, hunasked] at hkeeps
      cases hkeeps
    · rwa [hstays]

theorem hasDeleted_after (limits : Limits) (happenings : List Happening)
    (hdeleted : (traffic.stages caller).hasDeleted = true) :
    ((traffic.after limits happenings).stages caller).hasDeleted = true :=
  stages_after_of_moves rfl Stage.Moves.hasDeleted happenings hdeleted

theorem hasRead_after (limits : Limits) (happenings : List Happening)
    (hread : (traffic.stages caller).hasRead = true) :
    ((traffic.after limits happenings).stages caller).hasRead = true :=
  stages_after_of_moves rfl Stage.Moves.hasRead happenings hread

/-! ## Where items come from -/

/-- At some moment of the run the generator finds the recommendation in the tables, if no call
fails. -/
def Finds (limits : Limits) (traffic : Traffic) (happenings : List Happening) (key : CacheKey)
    (recommendation : Recommendation) : Prop :=
  ∃ early late, happenings = early ++ late ∧
    (Generator.forCollection ((traffic.after limits early).tables.repository .none) limits key.user
      key.collection).result = .ok recommendation

theorem Finds.append {key : CacheKey} {recommendation : Recommendation}
    (hfinds : traffic.Finds limits happenings key recommendation) (rest : List Happening) :
    traffic.Finds limits (happenings ++ rest) key recommendation := by
  obtain ⟨early, late, rfl, hrun⟩ := hfinds
  exact ⟨early, late ++ rest, List.append_assoc _ _ _, hrun⟩

theorem Finds.decodes {key : CacheKey} {recommendation : Recommendation}
    (hfinds : traffic.Finds limits happenings key recommendation) :
    ScoredManga.decodeList? (ScoredManga.encodeList recommendation.items) =
      some (recommendation.items.map ScoredManga.storedForm) := by
  obtain ⟨early, late, -, hrun⟩ := hfinds
  exact Generator.decodeList?_of_forCollection hrun

theorem finds_of_result {key : CacheKey} {recommendation : Recommendation}
    (hrun : (Generator.forCollection (traffic.after limits happenings).repository limits key.user
      key.collection).result = .ok recommendation) :
    traffic.Finds limits happenings key recommendation :=
  ⟨happenings, [], (List.append_nil _).symm,
    Generator.forCollection_refines (Tables.repository_refines _ _) limits key.user key.collection
      recommendation hrun⟩

/-- Items that are ready to be written were ready before the run or were found in it. -/
theorem finds_of_stages_eq_generated {key : CacheKey} {recommendation : Recommendation}
    (hgenerated : (traffic.after limits happenings).stages caller =
      .generated key recommendation) :
    traffic.stages caller = .generated key recommendation ∨
      traffic.Finds limits happenings key recommendation := by
  induction happenings using List.reverseRecOn with
  | nil => exact .inl hgenerated
  | append_singleton happenings last ih =>
    rw [after_concat] at hgenerated
    obtain ⟨-, hmoves⟩ | ⟨request, -, -, hasked⟩ | hstays :=
      stages_next limits (traffic.after limits happenings) last caller
    · rw [hgenerated] at hmoves
      exact .inr ((finds_of_result hmoves.result_of_generated).append _)
    · rw [hgenerated] at hasked
      cases hasked
    · exact (ih (hstays ▸ hgenerated)).imp id fun hfinds => hfinds.append _

theorem exists_of_mem_events {event : CacheWriter.Event}
    (hevent : event ∈ traffic.events limits happenings) :
    ∃ early happening late, happenings = early ++ happening :: late ∧
      event ∈ (traffic.after limits early).eventsOf limits happening := by
  induction happenings generalizing traffic with
  | nil => cases hevent
  | cons happening rest ih =>
    rcases List.mem_append.1 hevent with hfirst | hlater
    · exact ⟨[], happening, rest, rfl, hfirst⟩
    · obtain ⟨early, other, late, rfl, hmem⟩ := ih hlater
      exact ⟨happening :: early, other, late, rfl, hmem⟩

/-- A write is asked for by a request that stands with its items at hand. -/
theorem exists_generated_of_set_mem_events {text payload : String}
    (hset : .set text payload ∈ traffic.events limits happenings) :
    ∃ early caller late key recommendation, happenings = early ++ .advance caller :: late ∧
      (traffic.after limits early).stages caller = .generated key recommendation ∧
      text = key.text ∧ payload = ScoredManga.encodeList recommendation.items := by
  obtain ⟨early, happening, late, rfl, hmem⟩ := exists_of_mem_events hset
  cases happening with
  | advance caller =>
    obtain ⟨key, recommendation, hstage, htext, hpayload⟩ :=
      (Stage.moves_advance _ _ _ _).exists_generated_of_set hmem
    exact ⟨early, caller, late, key, recommendation, rfl, hstage, htext, hpayload⟩
  | ask _ _ | begin | finish | tables _ | outages _ => simp [eventsOf] at hmem

/-! ## Deletions -/

/-- In the run the caller issues a deletion that takes the key with it and has the ticket. -/
def Deletes (limits : Limits) (traffic : Traffic) (happenings : List Happening) (caller : Nat)
    (key : CacheKey) (ticket : Nat) : Prop :=
  ∃ early late keys, happenings = early ++ .advance caller :: late ∧ key ∈ keys ∧
    (traffic.after limits early).stages caller = .evicting keys ∧
    (traffic.after limits early).writer.tickets = ticket

theorem Deletes.append {key : CacheKey} {ticket : Nat}
    (hdeletes : traffic.Deletes limits happenings caller key ticket) (rest : List Happening) :
    traffic.Deletes limits (happenings ++ rest) caller key ticket := by
  obtain ⟨early, late, keys, rfl, hrest⟩ := hdeletes
  exact ⟨early, late ++ rest, keys, by rw [List.append_assoc, List.cons_append], hrest⟩

/-- How far an invalidation of a key has come in a run that began when it was asked for. -/
inductive Invalidating (limits : Limits) (traffic : Traffic) (happenings : List Happening)
    (caller : Nat) (key : CacheKey) (request : Request) : Stage → Prop
  | asked : Invalidating limits traffic happenings caller key request (.asked request)
  | evicting (keys) (hkey : key ∈ keys) :
      Invalidating limits traffic happenings caller key request (.evicting keys)
  | awaiting (ticket) (hdeletes : traffic.Deletes limits happenings caller key ticket) :
      Invalidating limits traffic happenings caller key request (.awaiting ticket)
  | evicted (ticket result) (hdeletes : traffic.Deletes limits happenings caller key ticket)
      (hreply : (ticket, result) ∈ (traffic.after limits happenings).writer.replies) :
      Invalidating limits traffic happenings caller key request (.answered (.ok .evicted))
  | refused (failure) :
      Invalidating limits traffic happenings caller key request (.answered (.error failure))

section Invalidating

variable {key : CacheKey} {request : Request} {stage : Stage}

theorem mem_replies_append {reply : Nat × Except Failure Unit} (rest : List Happening)
    (hreply : reply ∈ (traffic.after limits happenings).writer.replies) :
    reply ∈ (traffic.after limits (happenings ++ rest)).writer.replies := by
  rw [after_append, writer_after]
  exact CacheWriter.mem_replies_after hreply

theorem Invalidating.append
    (hcome : traffic.Invalidating limits happenings caller key request stage)
    (rest : List Happening) :
    traffic.Invalidating limits (happenings ++ rest) caller key request stage := by
  cases hcome with
  | asked => exact .asked
  | evicting keys hkey => exact .evicting keys hkey
  | awaiting ticket hdeletes => exact .awaiting ticket (hdeletes.append rest)
  | evicted ticket result hdeletes hreply =>
    exact .evicted ticket result (hdeletes.append rest) (mem_replies_append rest hreply)
  | refused failure => exact .refused failure

theorem Invalidating.moves
    (hinvalidates : Invalidates (traffic.after limits happenings).tables key request)
    (hstage : (traffic.after limits happenings).stages caller = stage)
    (hcome : traffic.Invalidating limits happenings caller key request stage)
    {events : List CacheWriter.Event} {after : Stage}
    (hmoves : Stage.Moves limits (traffic.after limits happenings).repository
      (traffic.after limits happenings).writer stage events after) :
    traffic.Invalidating limits (happenings ++ [.advance caller]) caller key request after := by
  cases hcome with
  | asked =>
    obtain ⟨keys, hkey, rfl⟩ | ⟨failure, rfl⟩ := hmoves.of_invalidates hinvalidates
    · exact .evicting keys hkey
    · exact .refused failure
  | evicting keys hkey =>
    cases hmoves with
    | nothingToEvict => cases hkey
    | deleted => exact .awaiting _ ⟨happenings, [], keys, rfl, hkey, hstage, rfl⟩
  | awaiting ticket hdeletes =>
    cases hmoves with
    | waiting => exact .awaiting ticket (hdeletes.append _)
    | replied _ result hreply =>
      exact .evicted ticket result (hdeletes.append _)
        (mem_replies_append _ (CacheWriter.mem_replies_of_reply? hreply))
  | evicted ticket result hdeletes hreply =>
    cases hmoves
    exact .evicted ticket result (hdeletes.append _) (mem_replies_append _ hreply)
  | refused failure =>
    cases hmoves
    exact .refused failure

/-- As long as the tables stay as they are, an invalidation comes along one of these ways. -/
theorem invalidating_after (limits : Limits)
    (hinvalidates : Invalidates traffic.tables key request)
    (hasked : traffic.stages caller = .asked request)
    (hunreplaced : ∀ tables, .tables tables ∉ happenings) :
    traffic.Invalidating limits happenings caller key request
      ((traffic.after limits happenings).stages caller) := by
  induction happenings using List.reverseRecOn with
  | nil =>
    show traffic.Invalidating limits [] caller key request (traffic.stages caller)
    rw [hasked]
    exact .asked
  | append_singleton happenings last ih =>
    have hbefore : ∀ tables, .tables tables ∉ happenings :=
      fun tables hmem => hunreplaced tables (List.mem_append_left _ hmem)
    have hcome := ih hbefore
    rw [after_concat]
    obtain ⟨rfl, hmoves⟩ | ⟨other, -, hidle, -⟩ | hstays :=
      stages_next limits (traffic.after limits happenings) last caller
    · refine hcome.moves ?_ rfl hmoves
      rwa [tables_after hbefore]
    · rw [hidle] at hcome
      cases hcome
    · rw [hstays]
      exact hcome.append _

end Invalidating

/-- A payload that is found although its deletion was replied to was written after the deletion. -/
theorem exists_set_of_get? (hserving : traffic.writer.IsServing) {server : CacheServer}
    {past : List CacheWriter.Event}
    (hpast : traffic.writer = (CacheWriter.ofServer server).after past) {key : CacheKey}
    {ticket : Nat} {result : Except Failure Unit} {payload : String}
    (hdeletes : traffic.Deletes limits happenings caller key ticket)
    (hreply : (ticket, result) ∈ (traffic.after limits happenings).writer.replies)
    (hpayload : (traffic.after limits happenings).writer.server.store.get? key.text =
      some payload) :
    ∃ early late, happenings = early ++ .advance caller :: late ∧
      ((traffic.after limits (early ++ [.advance caller])).stages caller).hasDeleted = true ∧
      .set key.text payload ∈
        (traffic.after limits (early ++ [.advance caller])).events limits late := by
  obtain rfl := (isServing_after hserving happenings).replies ticket result hreply
  obtain ⟨early, late, keys, rfl, hkey, hstage, rfl⟩ := hdeletes
  have hadvance := Stage.advance_evicting limits (traffic.after limits early).repository
    (traffic.after limits early).writer hkey
  have hevents : (traffic.after limits early).eventsOf limits (.advance caller) =
      [.delete (keys.map CacheKey.text)] := by rw [eventsOf, hstage, hadvance]
  have hnow : (traffic.after limits early).writer =
      (CacheWriter.ofServer server).after (past ++ traffic.events limits early) := by
    rw [writer_after, hpast, CacheWriter.after_append]
  have hend : (traffic.after limits (early ++ .advance caller :: late)).writer =
      (CacheWriter.ofServer server).after ((past ++ traffic.events limits early) ++
        .delete (keys.map CacheKey.text) ::
          (traffic.after limits (early ++ [.advance caller])).events limits late) := by
    rw [writer_after, hpast, ← CacheWriter.after_append, events_append, events, hevents,
      after_concat, List.append_assoc]
    rfl
  rw [hend] at hreply hpayload
  rw [hnow] at hreply
  refine ⟨early, late, rfl, ?_, ?_⟩
  · rw [after_concat, next]
    simp only [withStage, if_true, hstage, hadvance]
    rfl
  · exact CacheWriter.mem_of_set_mem_accepted
      (CacheWriter.set_accepted_of_get? hreply (List.mem_map_of_mem hkey) hpayload)

/-! ## Answers -/

/-- How far the asking for a key has come, if all that it is answered is found in the run. -/
inductive Reading (limits : Limits) (traffic : Traffic) (happenings : List Happening)
    (key : CacheKey) : Stage → Prop
  | asked : Reading limits traffic happenings key
      (.asked (.forCollection key.user key.collection))
  | owned : Reading limits traffic happenings key (.owned key)
  | missed : Reading limits traffic happenings key (.missed key)
  | generated (recommendation) (hfinds : traffic.Finds limits happenings key recommendation) :
      Reading limits traffic happenings key (.generated key recommendation)
  | served (served : Served) (recommendation : Recommendation)
      (hfinds : traffic.Finds limits happenings key recommendation)
      (hitems : served.items.map ScoredManga.storedForm =
        recommendation.items.map ScoredManga.storedForm) :
      Reading limits traffic happenings key (.answered (.ok (.served served)))
  | refused (failure) : Reading limits traffic happenings key (.answered (.error failure))

/-- Every payload under the key is the text of items that are found in the run. -/
def HoldsFound (limits : Limits) (traffic : Traffic) (happenings : List Happening)
    (key : CacheKey) : Prop :=
  ∀ payload, (traffic.after limits happenings).writer.server.store.get? key.text = some payload →
    ∃ recommendation, traffic.Finds limits happenings key recommendation ∧
      payload = ScoredManga.encodeList recommendation.items

section Reading

variable {key : CacheKey} {stage : Stage}

/-- A hit has the stored form of items that are found in the run. -/
theorem HoldsFound.exists_of_hit (hholds : traffic.HoldsFound limits happenings key)
    (hserving : (traffic.after limits happenings).writer.IsServing) {items : List ScoredManga}
    (hread : Stage.itemsOf ((traffic.after limits happenings).writer.get key.text).1 =
      some items) :
    ∃ recommendation, traffic.Finds limits happenings key recommendation ∧
      items = recommendation.items.map ScoredManga.storedForm := by
  rw [hserving.get] at hread
  cases hpayload : (traffic.after limits happenings).writer.server.store.get? key.text with
  | none =>
    rw [hpayload] at hread
    cases hread
  | some payload =>
    obtain ⟨recommendation, hfinds, rfl⟩ := hholds payload hpayload
    rw [hpayload, Stage.itemsOf, hfinds.decodes] at hread
    exact ⟨recommendation, hfinds, (Option.some.inj hread).symm⟩

theorem Reading.append (hcome : traffic.Reading limits happenings key stage)
    (rest : List Happening) : traffic.Reading limits (happenings ++ rest) key stage := by
  cases hcome with
  | asked => exact .asked
  | owned => exact .owned
  | missed => exact .missed
  | generated recommendation hfinds => exact .generated recommendation (hfinds.append rest)
  | served served recommendation hfinds hitems =>
    exact .served served recommendation (hfinds.append rest) hitems
  | refused failure => exact .refused failure

theorem Reading.moves (hserving : (traffic.after limits happenings).writer.IsServing)
    (hcome : traffic.Reading limits happenings key stage)
    (hholds : stage = .owned key → traffic.HoldsFound limits happenings key)
    {events : List CacheWriter.Event} {after : Stage}
    (hmoves : Stage.Moves limits (traffic.after limits happenings).repository
      (traffic.after limits happenings).writer stage events after) :
    traffic.Reading limits (happenings ++ [.advance caller]) key after := by
  cases hcome with
  | asked =>
    obtain rfl | ⟨failure, rfl⟩ := hmoves.of_forCollection
    · exact .owned
    · exact .refused failure
  | owned =>
    cases hmoves with
    | hit _ items hread =>
      obtain ⟨recommendation, hfinds, rfl⟩ := (hholds rfl).exists_of_hit hserving hread
      exact .served _ recommendation (hfinds.append _)
        (ScoredManga.map_storedForm_map_storedForm _)
    | missed => exact .missed
  | missed =>
    cases hmoves with
    | failed _ failure => exact .refused failure
    | generated _ recommendation hrun =>
      exact .generated recommendation ((finds_of_result hrun).append _)
  | generated recommendation hfinds =>
    cases hmoves
    exact .served _ recommendation (hfinds.append _) rfl
  | served served recommendation hfinds hitems =>
    cases hmoves
    exact .served served recommendation (hfinds.append _) hitems
  | refused failure =>
    cases hmoves
    exact .refused failure

/-- If the cache holds what is found in the run whenever it is going to be read, then that is what
is answered. -/
theorem reading_after (hserving : traffic.writer.IsServing) {asking answering : List Happening}
    (hasked : (traffic.after limits asking).stages caller =
      .asked (.forCollection key.user key.collection))
    (hholds : ∀ early late, answering = early ++ late →
      (traffic.after limits (asking ++ early)).stages caller = .owned key →
        traffic.HoldsFound limits (asking ++ early) key) :
    traffic.Reading limits (asking ++ answering) key
      ((traffic.after limits (asking ++ answering)).stages caller) := by
  induction answering using List.reverseRecOn with
  | nil =>
    rw [List.append_nil, hasked]
    exact .asked
  | append_singleton answering last ih =>
    have hcome := ih fun early late hsplit =>
      hholds early (late ++ [last]) (by rw [hsplit, List.append_assoc])
    rw [← List.append_assoc, after_concat]
    obtain ⟨rfl, hmoves⟩ | ⟨other, -, hidle, -⟩ | hstays :=
      stages_next limits (traffic.after limits (asking ++ answering)) last caller
    · exact hcome.moves (isServing_after hserving _) (hholds answering [_] rfl) hmoves
    · rw [hidle] at hcome
      cases hcome
    · rw [hstays]
      exact hcome.append _

end Reading

end Traffic

end MangaRecommender.Service
