import Mathlib
import MangaRecommender.Proofs.Cache.Writer
import MangaRecommender.Proofs.Service.Replies
import MangaRecommender.Service.Traffic

/-!
# What can happen among requests

The writer of the cache sees a run as a list of events, so that all that is known about its runs
holds here.  A request moves on alone, and a request that nothing interrupts answers and stores
what it would answer and store by itself.
-/

namespace MangaRecommender

namespace CacheWriter

/-- The event is a call or a turn of the writer. -/
def Event.isOrdinary : Event → Bool
  | .close | .serverStatus _ _ => false
  | .get _ | .set _ _ | .delete _ | .begin | .finish => true

/-- The queue is open, the server applies every command, and every deletion succeeded so far. -/
structure IsServing (writer : CacheWriter) : Prop where
  accepting : writer.accepting = true
  listening : writer.server.listening = true
  failing : writer.server.failing = false
  replies : ∀ ticket result, (ticket, result) ∈ writer.replies → result = .ok ()

theorem isIdle_iff {writer : CacheWriter} :
    writer.isIdle = true ↔ writer.queue = [] ∧ writer.current = none := by
  simp [isIdle]

theorem begin_finish_of_isIdle {writer : CacheWriter} (hidle : writer.isIdle = true) :
    writer.begin.finish = writer := by
  obtain ⟨hqueue, hcurrent⟩ := isIdle_iff.1 hidle
  have hbegin : writer.begin = writer := by simp only [begin, hcurrent, hqueue]
  rw [hbegin]
  simp only [finish, hcurrent]

namespace IsServing

variable {writer : CacheWriter}

theorem execute (hserving : writer.IsServing) (command : ServerCommand) :
    writer.server.execute command =
      (.ok (CacheServer.payloadOf writer.server.store command),
        { writer.server with
          received := command :: writer.server.received
          store := CacheServer.storeAfter writer.server.store command }) := by
  simp [CacheServer.execute, hserving.listening, hserving.failing]

theorem get (hserving : writer.IsServing) (key : String) :
    (writer.get key).1 = .ok (writer.server.store.get? key) := by
  rw [CacheWriter.get, hserving.execute]
  rfl

/-- As long as nobody closes the queue and the server is left alone, this does not change. -/
theorem step (hserving : writer.IsServing) {event : Event} (hordinary : event.isOrdinary = true) :
    (writer.step event).IsServing := by
  obtain ⟨haccepting, hlistening, hfailing, hreplies⟩ := hserving
  have hexecute := execute ⟨haccepting, hlistening, hfailing, hreplies⟩
  cases event with
  | get key =>
    simp only [CacheWriter.step, CacheWriter.get, hexecute]
    exact ⟨haccepting, hlistening, hfailing, hreplies⟩
  | set key payload =>
    simp only [CacheWriter.step, submitSet, haccepting, if_true]
    exact ⟨rfl, hlistening, hfailing, hreplies⟩
  | delete keys =>
    simp only [CacheWriter.step, submitDelete, haccepting, if_true]
    exact ⟨rfl, hlistening, hfailing, hreplies⟩
  | begin =>
    simp only [CacheWriter.step, begin]
    split <;> exact ⟨haccepting, hlistening, hfailing, hreplies⟩
  | finish =>
    simp only [CacheWriter.step, finish]
    split
    · exact ⟨haccepting, hlistening, hfailing, hreplies⟩
    · next mutation hcurrent =>
      simp only [hexecute]
      refine ⟨haccepting, hlistening, hfailing, ?_⟩
      cases mutation.ticket? with
      | none => exact hreplies
      | some own =>
        intro ticket result hreply
        rcases List.mem_cons.1 hreply with hnew | hold
        · exact (Prod.mk.inj hnew).2
        · exact hreplies ticket result hold
  | close | serverStatus _ _ => cases hordinary

theorem after (hserving : writer.IsServing) {events : List Event}
    (hordinary : ∀ event ∈ events, event.isOrdinary = true) : (writer.after events).IsServing := by
  induction events generalizing writer with
  | nil => exact hserving
  | cons event rest ih =>
    exact ih (hserving.step (hordinary event List.mem_cons_self)) fun other hother =>
      hordinary other (List.mem_cons_of_mem _ hother)

/-! ### A turn after a call to an idle writer -/

theorem store_after_get (hserving : writer.IsServing) (key : String) :
    (writer.after [.get key]).server.store = writer.server.store := by
  have hget : writer.after [.get key] = (writer.get key).2 := rfl
  rw [hget, CacheWriter.get, hserving.execute]
  rfl

/-- With one mutation in its queue a writer applies it and replies to its caller. -/
theorem turn (hserving : writer.IsServing) {mutation : Mutation} (hcurrent : writer.current = none)
    (hqueue : writer.queue = [mutation]) :
    writer.begin.finish.server.store =
        CacheServer.storeAfter writer.server.store mutation.command ∧
      ∀ ticket, mutation.ticket? = some ticket →
        writer.begin.finish.reply? ticket = some (.ok ()) := by
  have hbegin : writer.begin = { writer with queue := [], current := some mutation } := by
    simp only [CacheWriter.begin, hcurrent, hqueue]
  have hexecute := hserving.execute mutation.command
  constructor
  · simp only [hbegin, CacheWriter.finish, hexecute]
  · intro ticket hticket
    simp [hbegin, CacheWriter.finish, hexecute, reply?, hticket, Except.map]

theorem store_turn_set (hserving : writer.IsServing) (hidle : writer.isIdle = true)
    (key payload : String) :
    (writer.after [.set key payload]).begin.finish.server.store =
      writer.server.store.insert key payload := by
  obtain ⟨hqueue, hcurrent⟩ := isIdle_iff.1 hidle
  have hset : writer.after [.set key payload] =
      { writer with queue := [.set key payload] } := by
    simp [CacheWriter.after, CacheWriter.step, submitSet, hserving.accepting, hqueue]
  have hafter : (writer.after [.set key payload]).IsServing :=
    hserving.after (by simp [Event.isOrdinary])
  exact (hafter.turn (by rw [hset, hcurrent]) (by rw [hset])).1.trans (by rw [hset]; rfl)

theorem turn_delete (hserving : writer.IsServing) (hidle : writer.isIdle = true)
    (keys : List String) :
    (writer.after [.delete keys]).begin.finish.server.store = writer.server.store.erase keys ∧
      (writer.after [.delete keys]).begin.finish.reply? writer.tickets = some (.ok ()) := by
  obtain ⟨hqueue, hcurrent⟩ := isIdle_iff.1 hidle
  have hdelete : writer.after [.delete keys] =
      { writer with queue := [.delete keys writer.tickets], tickets := writer.tickets + 1 } := by
    simp [CacheWriter.after, CacheWriter.step, submitDelete, hserving.accepting, hqueue]
  have hafter : (writer.after [.delete keys]).IsServing :=
    hserving.after (by simp [Event.isOrdinary])
  obtain ⟨hstore, hreply⟩ := hafter.turn (by rw [hdelete, hcurrent])
    (show _ = [.delete keys writer.tickets] by rw [hdelete])
  exact ⟨hstore.trans (by rw [hdelete]; rfl), hreply _ rfl⟩

end IsServing

end CacheWriter

namespace Service

variable {limits : Limits}

namespace Stage

/-- The ways in which a request can move on, with what it asks of the cache. -/
inductive Moves (limits : Limits) (repository : Repository) (writer : CacheWriter) :
    Stage → List CacheWriter.Event → Stage → Prop
  | unasked : Moves limits repository writer .unasked [] .unasked
  | refused (request failure) :
      Moves limits repository writer (.asked request) [] (.answered (.error failure))
  | owned (key) (howns : repository.owns key.user key.collection = .ok true) :
      Moves limits repository writer (.asked (.forCollection key.user key.collection)) []
        (.owned key)
  | listed (ids recommendation) :
      Moves limits repository writer (.asked (.forList ids)) []
        (.answered (.ok (.served (served recommendation))))
  | evictsUser (user collections) (howned : repository.userCollections user = .ok collections) :
      Moves limits repository writer (.asked (.invalidateUser user)) []
        (.evicting (collections.map (CacheKey.mk user)))
  | evictsCollection (key) :
      Moves limits repository writer (.asked (.invalidateCollection key.user key.collection)) []
        (.evicting [key])
  | hit (key items) (hread : itemsOf (writer.get key.text).1 = some items) :
      Moves limits repository writer (.owned key) [.get key.text]
        (.answered (.ok (.served ⟨items, none⟩)))
  | missed (key) : Moves limits repository writer (.owned key) [.get key.text] (.missed key)
  | failed (key failure) :
      Moves limits repository writer (.missed key) [] (.answered (.error failure))
  | generated (key recommendation)
      (hrun : (Generator.forCollection repository limits key.user key.collection).result =
        .ok recommendation) :
      Moves limits repository writer (.missed key) [] (.generated key recommendation)
  | written (key recommendation) :
      Moves limits repository writer (.generated key recommendation)
        [.set key.text (ScoredManga.encodeList recommendation.items)]
        (.answered (.ok (.served (served recommendation))))
  | nothingToEvict : Moves limits repository writer (.evicting []) [] (.answered (.ok .evicted))
  | deleted (keys) : Moves limits repository writer (.evicting keys)
      [.delete (keys.map CacheKey.text)] (.awaiting writer.tickets)
  | waiting (ticket) : Moves limits repository writer (.awaiting ticket) [] (.awaiting ticket)
  | replied (ticket result) (hreply : writer.reply? ticket = some result) :
      Moves limits repository writer (.awaiting ticket) [] (.answered (.ok .evicted))
  | answered (answer) : Moves limits repository writer (.answered answer) [] (.answered answer)

theorem moves_advance (limits : Limits) (repository : Repository) (writer : CacheWriter)
    (stage : Stage) :
    Moves limits repository writer stage (stage.advance limits repository writer).1
      (stage.advance limits repository writer).2 := by
  fun_cases advance limits repository writer stage with
  | case1 => exact .unasked
  | case2 user collection failure => exact .refused _ failure
  | case3 => exact .refused _ _
  | case4 user collection howns => exact .owned ⟨user, collection⟩ howns
  | case5 ids =>
    cases (Generator.forList repository limits ids).result with
    | error failure => exact .refused _ failure
    | ok recommendation => exact .listed ids recommendation
  | case6 user failure => exact .refused _ failure
  | case7 user collections howned => exact .evictsUser user collections howned
  | case8 user collection => exact .evictsCollection ⟨user, collection⟩
  | case9 key items hread => exact .hit key items hread
  | case10 key => exact .missed key
  | case11 key failure => exact .failed key failure
  | case12 key recommendation hrun => exact .generated key recommendation hrun
  | case13 key recommendation => exact .written key recommendation
  | case14 => exact .nothingToEvict
  | case15 key keys => exact .deleted (key :: keys)
  | case16 ticket => exact .waiting ticket
  | case17 ticket result hreply => exact .replied ticket result hreply
  | case18 answer => exact .answered answer

/-- Requests read, write and delete, and leave the queue open and the server alone. -/
theorem Moves.isOrdinary {repository : Repository} {writer : CacheWriter} {stage after : Stage}
    {events : List CacheWriter.Event} (hmoves : Moves limits repository writer stage events after) :
    ∀ event ∈ events, event.isOrdinary = true := by
  cases hmoves <;> simp [CacheWriter.Event.isOrdinary]

end Stage

namespace Traffic

variable {traffic : Traffic} {caller : Nat}

theorem after_append (traffic : Traffic) (before rest : List Happening) :
    traffic.after limits (before ++ rest) = (traffic.after limits before).after limits rest :=
  List.foldl_append

/-! ## What the writer sees -/

/-- All that happens to the writer in a run. -/
def events (limits : Limits) (traffic : Traffic) : List Happening → List CacheWriter.Event
  | [] => []
  | happening :: rest =>
    traffic.eventsOf limits happening ++ events limits (traffic.next limits happening) rest

theorem writer_next (traffic : Traffic) (happening : Happening) :
    (traffic.next limits happening).writer =
      traffic.writer.after (traffic.eventsOf limits happening) := by
  cases happening with
  | ask caller request =>
    simp only [next]
    split <;> rfl
  | advance _ | begin | finish | tables _ | outages _ => rfl

theorem writer_after (traffic : Traffic) (happenings : List Happening) :
    (traffic.after limits happenings).writer =
      traffic.writer.after (traffic.events limits happenings) := by
  induction happenings generalizing traffic with
  | nil => rfl
  | cons happening rest ih =>
    rw [events, CacheWriter.after_append, ← writer_next]
    exact ih (traffic.next limits happening)

theorem events_append (traffic : Traffic) (before rest : List Happening) :
    traffic.events limits (before ++ rest) =
      traffic.events limits before ++ (traffic.after limits before).events limits rest := by
  induction before generalizing traffic with
  | nil => rfl
  | cons happening before ih =>
    rw [List.cons_append, events, ih, events, List.append_assoc]
    rfl

/-- Nothing that can happen closes the queue or changes the moods of the server. -/
theorem isServing_next (hserving : traffic.writer.IsServing) (happening : Happening) :
    (traffic.next limits happening).writer.IsServing := by
  rw [writer_next]
  apply hserving.after
  cases happening with
  | advance caller => exact (Stage.moves_advance _ _ _ _).isOrdinary
  | ask _ _ | begin | finish | tables _ | outages _ =>
    simp [eventsOf, CacheWriter.Event.isOrdinary]

theorem isServing_after (hserving : traffic.writer.IsServing) (happenings : List Happening) :
    (traffic.after limits happenings).writer.IsServing := by
  induction happenings generalizing traffic with
  | nil => exact hserving
  | cons happening rest ih => exact ih (isServing_next hserving happening)

theorem isServing_start (tables : Tables) (store : PayloadStore) :
    (start tables store).writer.IsServing :=
  ⟨rfl, rfl, rfl, fun _ _ hreply => absurd hreply List.not_mem_nil⟩

/-! ## What a request sees -/

/-- A request moves on, is asked, or stays where it is. -/
theorem stages_next (limits : Limits) (traffic : Traffic) (happening : Happening) (caller : Nat) :
    (happening = .advance caller ∧ Stage.Moves limits traffic.repository traffic.writer
        (traffic.stages caller) (traffic.eventsOf limits happening)
        ((traffic.next limits happening).stages caller)) ∨
      (∃ request, happening = .ask caller request ∧ traffic.stages caller = .unasked ∧
        (traffic.next limits happening).stages caller = .asked request) ∨
      (traffic.next limits happening).stages caller = traffic.stages caller := by
  cases happening with
  | advance other =>
    by_cases hcaller : caller = other
    · subst hcaller
      refine .inl ⟨rfl, ?_⟩
      simp only [next, withStage, if_true]
      exact Stage.moves_advance _ _ _ _
    · exact .inr (.inr (if_neg hcaller))
  | ask other request =>
    simp only [next]
    split
    · next hunasked =>
      by_cases hcaller : caller = other
      · subst hcaller
        exact .inr (.inl ⟨request, rfl, hunasked, if_pos rfl⟩)
      · exact .inr (.inr (if_neg hcaller))
    · exact .inr (.inr rfl)
  | begin | finish | tables _ | outages _ => exact .inr (.inr rfl)

/-- A request is asked and moves on by itself only. -/
theorem stages_after_of_others {happenings : List Happening}
    (hothers : ∀ happening ∈ happenings, happening ≠ .advance caller ∧
      ∀ request, happening ≠ .ask caller request) :
    (traffic.after limits happenings).stages caller = traffic.stages caller := by
  induction happenings generalizing traffic with
  | nil => rfl
  | cons happening rest ih =>
    obtain ⟨hadvance, hask⟩ := hothers happening List.mem_cons_self
    refine (ih fun other hmem => hothers other (List.mem_cons_of_mem _ hmem)).trans ?_
    obtain ⟨hmoved, -⟩ | ⟨request, hasked, -⟩ | hstays :=
      stages_next limits traffic happening caller
    · exact absurd hmoved hadvance
    · exact absurd hasked (hask request)
    · exact hstays

theorem tables_after {happenings : List Happening}
    (hunchanged : ∀ tables, .tables tables ∉ happenings) :
    (traffic.after limits happenings).tables = traffic.tables := by
  induction happenings generalizing traffic with
  | nil => rfl
  | cons happening rest ih =>
    have hrest : ((traffic.next limits happening).after limits rest).tables =
        (traffic.next limits happening).tables :=
      ih fun tables hmem => hunchanged tables (List.mem_cons_of_mem _ hmem)
    refine hrest.trans ?_
    cases happening with
    | tables tables => exact absurd List.mem_cons_self (hunchanged tables)
    | ask caller request =>
      simp only [next]
      split <;> rfl
    | advance _ | begin | finish | outages _ => rfl

/-! ## A request that nothing interrupts -/

/-- The calls of a request one after the other, with a turn of the writer for its mutation. -/
def uninterrupted (caller : Nat) : Request → List Happening
  | .forList ids => [.ask caller (.forList ids), .advance caller]
  | .forCollection user collection =>
    [.ask caller (.forCollection user collection), .advance caller, .advance caller,
      .advance caller, .advance caller, .begin, .finish]
  | .invalidateUser user =>
    [.ask caller (.invalidateUser user), .advance caller, .advance caller, .begin, .finish,
      .advance caller]
  | .invalidateCollection user collection =>
    [.ask caller (.invalidateCollection user collection), .advance caller, .advance caller, .begin,
      .finish, .advance caller]

/-- The same service with one request and the writer further on. -/
def goneOn (traffic : Traffic) (caller : Nat) (stage : Stage) (writer : CacheWriter) : Traffic :=
  { traffic with writer }.withStage caller stage

theorem next_ask (hunasked : traffic.stages caller = .unasked) (request : Request) :
    traffic.next limits (.ask caller request) =
      traffic.goneOn caller (.asked request) traffic.writer := by
  simp only [next, hunasked]
  rfl

theorem next_advance {stage after : Stage} {writer : CacheWriter} {events : List CacheWriter.Event}
    (hadvance : stage.advance limits traffic.repository writer = (events, after)) :
    (traffic.goneOn caller stage writer).next limits (.advance caller) =
      traffic.goneOn caller after (writer.after events) := by
  have hstage : (traffic.goneOn caller stage writer).stages caller = stage := if_pos rfl
  have hrepository : (traffic.goneOn caller stage writer).repository = traffic.repository := rfl
  have hwriter : (traffic.goneOn caller stage writer).writer = writer := rfl
  simp only [next, eventsOf, hstage, hrepository, hwriter, hadvance]
  simp only [goneOn, withStage, Traffic.mk.injEq, true_and]
  refine ⟨rfl, funext fun other => ?_⟩
  split <;> rfl

theorem stages_goneOn (stage : Stage) (writer : CacheWriter) :
    (traffic.goneOn caller stage writer).stages caller = stage := if_pos rfl

theorem after_cons (first : Happening) (rest : List Happening) :
    traffic.after limits (first :: rest) = (traffic.next limits first).after limits rest := rfl

theorem next_answered (answer : Except Failure Answer) (writer : CacheWriter) :
    (traffic.goneOn caller (.answered answer) writer).next limits (.advance caller) =
      traffic.goneOn caller (.answered answer) writer :=
  next_advance rfl

theorem next_begin (stage : Stage) (writer : CacheWriter) :
    (traffic.goneOn caller stage writer).next limits .begin =
      traffic.goneOn caller stage writer.begin := rfl

theorem next_finish (stage : Stage) (writer : CacheWriter) :
    (traffic.goneOn caller stage writer).next limits .finish =
      traffic.goneOn caller stage writer.finish := rfl

/-- The request was answered and the cache has the store; of the service nothing else changed. -/
def EndsWith (traffic : Traffic) (caller : Nat) (answer : Except Failure Answer)
    (store : PayloadStore) (ending : Traffic) : Prop :=
  ∃ writer : CacheWriter, ending = traffic.goneOn caller (.answered answer) writer ∧
    writer.server.store = store

section Uninterrupted

variable {writer : CacheWriter} (hserving : writer.IsServing) (hidle : writer.isIdle = true)

section Answered

include hidle

/-- An idle writer has nothing to do for a request that is answered. -/
theorem endsWith_answered (answer : Except Failure Answer) (count : Nat) :
    traffic.EndsWith caller answer writer.server.store
      ((traffic.goneOn caller (.answered answer) writer).after limits
        (List.replicate count (.advance caller) ++ [.begin, .finish])) := by
  induction count with
  | zero =>
    exact ⟨_, rfl, congrArg (·.server.store) (CacheWriter.begin_finish_of_isIdle hidle)⟩
  | succ count ih => rwa [List.replicate_succ, List.cons_append, after_cons, next_answered]

end Answered

include hserving hidle

theorem endsWith_missed (key : CacheKey) :
    traffic.EndsWith caller
      ((generate limits traffic.repository ⟨writer.server.store, []⟩ key).answer.map .served)
      (generate limits traffic.repository ⟨writer.server.store, []⟩ key).cache.store
      ((traffic.goneOn caller (.missed key) writer).after limits
        [.advance caller, .advance caller, .begin, .finish]) := by
  rw [after_cons, generate]
  cases hrun : (Generator.forCollection traffic.repository limits key.user
      key.collection).result with
  | error failure =>
    rw [next_advance (show Stage.advance _ _ _ (.missed key) = ([], _) by
      rw [Stage.advance, hrun])]
    exact endsWith_answered hidle _ 1
  | ok recommendation =>
    rw [next_advance (show Stage.advance _ _ _ (.missed key) = ([], _) by
      rw [Stage.advance, hrun]), after_cons, next_advance rfl]
    exact ⟨_, rfl, hserving.store_turn_set hidle _ _⟩

theorem endsWith_owned {user : Uuid} {collection : Int32}
    (howns : traffic.repository.owns user collection = .ok true) :
    traffic.EndsWith caller
      ((forCollection limits traffic.repository ⟨writer.server.store, []⟩ user
        collection).answer.map .served)
      (forCollection limits traffic.repository ⟨writer.server.store, []⟩ user
        collection).cache.store
      ((traffic.goneOn caller (.owned ⟨user, collection⟩) writer).after limits
        [.advance caller, .advance caller, .advance caller, .begin, .finish]) := by
  have hread : Stage.itemsOf (writer.get (CacheKey.text ⟨user, collection⟩)).1 =
      cached ⟨writer.server.store, []⟩ ⟨user, collection⟩ := by
    rw [hserving.get]
    rfl
  -- a read leaves the queue and the store as they were
  have hstill : (writer.after [.get (CacheKey.text ⟨user, collection⟩)]).isIdle = true := hidle
  have hserves : (writer.after [.get (CacheKey.text ⟨user, collection⟩)]).IsServing :=
    hserving.after (by simp [CacheWriter.Event.isOrdinary])
  rw [after_cons, ← hserving.store_after_get (CacheKey.text ⟨user, collection⟩)]
  rw [← hserving.store_after_get (CacheKey.text ⟨user, collection⟩)] at hread
  simp only [forCollection, Repository.lookUpOwner, howns]
  cases hitems : cached ⟨(writer.after [.get (CacheKey.text ⟨user, collection⟩)]).server.store, []⟩
      ⟨user, collection⟩ with
  | some items =>
    rw [next_advance (show Stage.advance _ _ _ (.owned _) = ([.get _], _) by
      rw [Stage.advance, hread, hitems])]
    exact endsWith_answered hstill _ 2
  | none =>
    rw [next_advance (show Stage.advance _ _ _ (.owned _) = ([.get _], _) by
      rw [Stage.advance, hread, hitems])]
    exact endsWith_missed hserves hstill _

theorem endsWith_evicting (keys : List CacheKey) :
    traffic.EndsWith caller (.ok .evicted) (Cache.evict ⟨writer.server.store, []⟩ keys).store
      ((traffic.goneOn caller (.evicting keys) writer).after limits
        [.advance caller, .begin, .finish, .advance caller]) := by
  simp only [after, List.foldl_cons, List.foldl_nil]
  cases keys with
  | nil =>
    rw [next_advance rfl, next_begin, next_finish, next_answered]
    exact ⟨_, rfl, congrArg (·.server.store) (CacheWriter.begin_finish_of_isIdle hidle)⟩
  | cons key keys =>
    obtain ⟨hstore, hreply⟩ := hserving.turn_delete hidle ((key :: keys).map CacheKey.text)
    rw [next_advance rfl, next_begin, next_finish,
      next_advance (show Stage.advance _ _ _ _ = ([], _) by rw [Stage.advance, hreply]),
      Cache.evict_of_succeeds fun _ _ => List.not_mem_nil]
    exact ⟨_, rfl, hstore⟩

end Uninterrupted

section Asked

variable (hserving : traffic.writer.IsServing) (hidle : traffic.writer.isIdle = true)
  (hunasked : traffic.stages caller = .unasked)

include hserving hidle hunasked

theorem endsWith_forCollection (user : Uuid) (collection : Int32) :
    traffic.EndsWith caller
      ((forCollection limits traffic.repository ⟨traffic.writer.server.store, []⟩ user
        collection).answer.map .served)
      (forCollection limits traffic.repository ⟨traffic.writer.server.store, []⟩ user
        collection).cache.store
      (traffic.after limits (uninterrupted caller (.forCollection user collection))) := by
  rw [uninterrupted, after_cons, next_ask hunasked, after_cons]
  cases howns : traffic.repository.owns user collection with
  | error failure =>
    rw [next_advance (show Stage.advance _ _ _ _ = ([], _) by rw [Stage.advance, howns])]
    simp only [forCollection, Repository.lookUpOwner, howns]
    exact endsWith_answered hidle _ 3
  | ok owns =>
    cases owns with
    | false =>
      rw [next_advance (show Stage.advance _ _ _ _ = ([], _) by rw [Stage.advance, howns])]
      simp only [forCollection, Repository.lookUpOwner, howns]
      exact endsWith_answered hidle _ 3
    | true =>
      rw [next_advance (show Stage.advance _ _ _ _ = ([], _) by rw [Stage.advance, howns])]
      exact endsWith_owned hserving hidle howns

theorem endsWith_invalidateUser (user : Uuid) :
    traffic.EndsWith caller
      ((invalidateUser traffic.repository ⟨traffic.writer.server.store, []⟩ user).answer.map
        fun _ => .evicted)
      (invalidateUser traffic.repository ⟨traffic.writer.server.store, []⟩ user).cache.store
      (traffic.after limits (uninterrupted caller (.invalidateUser user))) := by
  rw [uninterrupted, after_cons, next_ask hunasked, after_cons]
  cases howned : traffic.repository.userCollections user with
  | error failure =>
    rw [next_advance (show Stage.advance _ _ _ _ = ([], _) by rw [Stage.advance, howned]),
      invalidateUser_of_error _ _ howned]
    simp only [after, List.foldl_cons, List.foldl_nil, next_answered, next_begin, next_finish]
    exact ⟨_, rfl, congrArg (·.server.store) (CacheWriter.begin_finish_of_isIdle hidle)⟩
  | ok collections =>
    rw [next_advance (show Stage.advance _ _ _ _ = ([], _) by rw [Stage.advance, howned]),
      invalidateUser_of_ok _ _ howned]
    exact endsWith_evicting hserving hidle _

/-- A request that nothing interrupts answers and stores what it would answer and store alone. -/
theorem endsWith_perform (request : Request) :
    traffic.EndsWith caller
      (perform limits traffic.repository ⟨traffic.writer.server.store, []⟩ request).answer
      (perform limits traffic.repository ⟨traffic.writer.server.store, []⟩ request).cache.store
      (traffic.after limits (uninterrupted caller request)) := by
  cases request with
  | forCollection user collection =>
    exact endsWith_forCollection hserving hidle hunasked user collection
  | forList ids =>
    rw [uninterrupted, after_cons, next_ask hunasked, after_cons, next_advance rfl]
    exact ⟨_, rfl, rfl⟩
  | invalidateUser user => exact endsWith_invalidateUser hserving hidle hunasked user
  | invalidateCollection user collection =>
    rw [uninterrupted, after_cons, next_ask hunasked, after_cons, next_advance rfl]
    exact endsWith_evicting hserving hidle _

end Asked

end Traffic

end Service

end MangaRecommender
