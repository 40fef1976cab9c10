import Mathlib
import MangaRecommender.Cache.Writer

/-!
# Accepted mutations are attempted in order

A writer may be called by anybody at any time, while its own turns and the moods of the server fall
in between: a run is any list of events.  Beside the writer two histories are kept, the mutations
that it accepted and the attempts that it completed.  At every moment the attempts, the mutation in
hand and the queue are together the accepted mutations, each once and in the order of acceptance,
and the server receives those attempts that find it there.  A caller of a deletion therefore learns
the result of its own deletion, after everything that was accepted before it, and a key whose
deletion succeeded is found again only if it is set again.
-/

namespace MangaRecommender

def ServerCommand.isMutation : ServerCommand → Bool
  | get _ => false
  | set _ _ | delete _ => true

theorem Mutation.isMutation_command (mutation : Mutation) : mutation.command.isMutation = true := by
  cases mutation <;> rfl

/-- The mutations that a server received, the first one first. -/
def CacheServer.mutations (server : CacheServer) : List ServerCommand :=
  server.received.reverse.filter ServerCommand.isMutation

/-- A mutation that was attempted, and what came of it. -/
structure Attempt where
  mutation : Mutation
  result : Except Failure Unit

namespace Attempt

/-- The store after an attempt, which changes nothing unless it succeeds. -/
def effect (store : PayloadStore) (attempt : Attempt) : PayloadStore :=
  match attempt.result with
  | .ok _ => CacheServer.storeAfter store attempt.mutation.command
  | .error _ => store

/-- Whether the attempt reached the server, which answers also when it fails. -/
def isReceived (attempt : Attempt) : Bool :=
  match attempt.result with
  | .ok _ => true
  | .error failure => failure != CacheServer.connectionRefused

/-- A payload that is found after attempts was there before them, or one of them set it. -/
theorem get?_foldl_effect {attempts : List Attempt} {store : PayloadStore} {key payload : String}
    (hpayload : (attempts.foldl effect store).get? key = some payload) :
    store.get? key = some payload ∨ .set key payload ∈ attempts.map mutation := by
  induction attempts generalizing store with
  | nil => exact .inl hpayload
  | cons attempt attempts ih =>
    rcases ih hpayload with hstore | hlater
    · obtain ⟨mutation, result⟩ := attempt
      cases result with
      | error failure => exact .inl hstore
      | ok _ =>
        cases mutation with
        | set setKey setPayload =>
          have hinsert : (store.insert setKey setPayload).get? key = some payload := hstore
          rw [PayloadStore.get?_insert] at hinsert
          split at hinsert
          · next hkey =>
            cases hinsert
            exact .inr (hkey ▸ List.mem_cons_self)
          · exact .inl hinsert
        | delete keys ticket =>
          have herase : (store.erase keys).get? key = some payload := hstore
          rw [PayloadStore.get?_erase] at herase
          split at herase
          · cases herase
          · exact .inl herase
    · exact .inr (List.mem_cons_of_mem _ hlater)

end Attempt

namespace CacheWriter

/-! ## Histories of a run -/

def after (writer : CacheWriter) (events : List Event) : CacheWriter := events.foldl step writer

/-- What is accepted and not yet attempted. -/
def pending (writer : CacheWriter) : List Mutation := writer.current.toList ++ writer.queue

theorem pending_ofServer (server : CacheServer) : (ofServer server).pending = [] := rfl

/-- What an event adds to the accepted mutations. -/
def accepts (writer : CacheWriter) : Event → List Mutation
  | .set key payload => if writer.accepting then [.set key payload] else []
  | .delete keys => if writer.accepting then [.delete keys writer.tickets] else []
  | .get _ | .begin | .finish | .close | .serverStatus _ _ => []

/-- What an event adds to the completed attempts. -/
def completes (writer : CacheWriter) : Event → List Attempt
  | .finish => writer.current.toList.map fun mutation =>
      ⟨mutation, (writer.server.execute mutation.command).1.map fun _ => ()⟩
  | .get _ | .set _ _ | .delete _ | .begin | .close | .serverStatus _ _ => []

/-- The mutations that are accepted in a run, the first one first. -/
def accepted (writer : CacheWriter) : List Event → List Mutation
  | [] => []
  | event :: events => writer.accepts event ++ accepted (writer.step event) events

/-- The attempts that are completed in a run, the first one first. -/
def attempts (writer : CacheWriter) : List Event → List Attempt
  | [] => []
  | event :: events => writer.completes event ++ attempts (writer.step event) events

variable (writer : CacheWriter) (event : Event) (events : List Event)

theorem after_append (before : List Event) :
    writer.after (before ++ events) = (writer.after before).after events :=
  List.foldl_append

theorem accepted_append (before : List Event) :
    writer.accepted (before ++ events) =
      writer.accepted before ++ (writer.after before).accepted events := by
  induction before generalizing writer with
  | nil => rfl
  | cons first before ih =>
    rw [List.cons_append, accepted, ih, accepted, List.append_assoc]
    rfl

theorem attempts_append (before : List Event) :
    writer.attempts (before ++ events) =
      writer.attempts before ++ (writer.after before).attempts events := by
  induction before generalizing writer with
  | nil => rfl
  | cons first before ih =>
    rw [List.cons_append, attempts, ih, attempts, List.append_assoc]
    rfl

/-! ## Nothing is lost, doubled or moved -/

/-- An event takes what it completes off the front and puts what it accepts to the back. -/
theorem completes_append_pending_step :
    (writer.completes event).map Attempt.mutation ++ (writer.step event).pending =
      writer.pending ++ writer.accepts event := by
  cases event with
  | get key => simp [completes, accepts, step, get, pending]
  | set key payload =>
    cases haccepting : writer.accepting <;>
      simp [completes, accepts, step, submitSet, pending, haccepting]
  | delete keys =>
    cases haccepting : writer.accepting <;>
      simp [completes, accepts, step, submitDelete, pending, haccepting]
  | begin =>
    cases hcurrent : writer.current <;> cases hqueue : writer.queue <;>
      simp [completes, accepts, step, begin, pending, hcurrent, hqueue]
  | finish =>
    cases hcurrent : writer.current <;>
      simp [completes, accepts, step, finish, pending, hcurrent]
  | close => simp [completes, accepts, step, close, pending]
  | serverStatus listening failing => simp [completes, accepts, step, pending]

theorem attempts_append_pending :
    (writer.attempts events).map Attempt.mutation ++ (writer.after events).pending =
      writer.pending ++ writer.accepted events := by
  induction events generalizing writer with
  | nil => exact (List.append_nil _).symm
  | cons event events ih =>
    calc (writer.attempts (event :: events)).map Attempt.mutation ++
          (writer.after (event :: events)).pending
        = (writer.completes event).map Attempt.mutation ++
            (((writer.step event).attempts events).map Attempt.mutation ++
              ((writer.step event).after events).pending) := by
          rw [attempts, List.map_append, List.append_assoc]
          rfl
      _ = (writer.completes event).map Attempt.mutation ++ (writer.step event).pending ++
            (writer.step event).accepted events := by rw [ih, List.append_assoc]
      _ = writer.pending ++ writer.accepted (event :: events) := by
          rw [completes_append_pending_step, List.append_assoc, accepted]

/-! ## The server holds what the attempts made of it -/

/-- What a step can do to the server: it leaves it alone, reads from it, attempts the mutation in
hand, or changes its mood. -/
inductive ServerStep (writer : CacheWriter) (event : Event) (server : CacheServer) : Prop
  | kept (hserver : server = writer.server) (hcompletes : writer.completes event = [])
  | read (key : String) (hserver : server = (writer.server.execute (.get key)).2)
      (hcompletes : writer.completes event = [])
  | attempted (mutation : Mutation)
      (hserver : server = (writer.server.execute mutation.command).2)
      (hcompletes : writer.completes event =
        [⟨mutation, (writer.server.execute mutation.command).1.map fun _ => ()⟩])
  | mood (listening failing : Bool) (hserver : server = { writer.server with listening, failing })
      (hcompletes : writer.completes event = [])

theorem server_step : ServerStep writer event (writer.step event).server := by
  cases event with
  | get key => exact .read key rfl rfl
  | set key payload =>
    refine .kept ?_ rfl
    cases haccepting : writer.accepting <;> simp [step, submitSet, haccepting]
  | delete keys =>
    refine .kept ?_ rfl
    cases haccepting : writer.accepting <;> simp [step, submitDelete, haccepting]
  | begin =>
    refine .kept ?_ rfl
    cases hcurrent : writer.current <;> cases hqueue : writer.queue <;>
      simp [step, begin, hcurrent, hqueue]
  | finish =>
    cases hcurrent : writer.current with
    | none => exact .kept (by simp [step, finish, hcurrent]) (by simp [completes, hcurrent])
    | some mutation =>
      exact .attempted mutation (by simp [step, finish, hcurrent]) (by simp [completes, hcurrent])
  | close => exact .kept rfl rfl
  | serverStatus listening failing => exact .mood listening failing rfl rfl

theorem store_execute (server : CacheServer) (command : ServerCommand) :
    (server.execute command).2.store =
      match (server.execute command).1 with
      | .ok _ => CacheServer.storeAfter server.store command
      | .error _ => server.store := by
  cases hlistening : server.listening <;> cases hfailing : server.failing <;>
    simp [CacheServer.execute, hlistening, hfailing]

theorem store_step :
    (writer.step event).server.store =
      (writer.completes event).foldl Attempt.effect writer.server.store := by
  cases server_step writer event with
  | kept hserver hcompletes => rw [hserver, hcompletes, List.foldl_nil]
  | read key hserver hcompletes =>
    rw [hserver, hcompletes, List.foldl_nil, store_execute]
    cases (writer.server.execute (.get key)).1 <;> rfl
  | attempted mutation hserver hcompletes =>
    rw [hserver, hcompletes, List.foldl_cons, List.foldl_nil, store_execute, Attempt.effect]
    cases (writer.server.execute mutation.command).1 <;> rfl
  | mood listening failing hserver hcompletes => rw [hserver, hcompletes, List.foldl_nil]

theorem store_after :
    (writer.after events).server.store =
      (writer.attempts events).foldl Attempt.effect writer.server.store := by
  induction events generalizing writer with
  | nil => rfl
  | cons event events ih =>
    rw [attempts, List.foldl_append, ← store_step]
    exact ih (writer.step event)

/-! ## The server receives what is attempted -/

theorem mutations_execute (server : CacheServer) (command : ServerCommand) :
    (server.execute command).2.mutations =
      server.mutations ++ if server.listening && command.isMutation then [command] else [] := by
  cases hlistening : server.listening <;> cases hfailing : server.failing <;>
    cases hmutation : command.isMutation <;>
    simp [CacheServer.execute, CacheServer.mutations, hlistening, hfailing, hmutation]

theorem isReceived_execute (server : CacheServer) (mutation : Mutation) :
    Attempt.isReceived ⟨mutation, (server.execute mutation.command).1.map fun _ => ()⟩ =
      server.listening := by
  cases hlistening : server.listening <;> cases hfailing : server.failing <;>
    simp [CacheServer.execute, Attempt.isReceived, Except.map, hlistening, hfailing,
      CacheServer.commandFailed, CacheServer.connectionRefused]

/-- A server receives the mutation that is attempted, unless it is not there. -/
theorem mutations_step :
    (writer.step event).server.mutations = writer.server.mutations ++
      ((writer.completes event).filter Attempt.isReceived).map (·.mutation.command) := by
  cases server_step writer event with
  | kept hserver hcompletes => simp [hserver, hcompletes]
  | read key hserver hcompletes =>
    rw [hserver, hcompletes, mutations_execute]
    simp [ServerCommand.isMutation]
  | attempted mutation hserver hcompletes =>
    rw [hserver, hcompletes, mutations_execute, List.filter_singleton, isReceived_execute,
      Mutation.isMutation_command, Bool.and_true]
    cases writer.server.listening <;> rfl
  | mood listening failing hserver hcompletes => simp [hserver, hcompletes, CacheServer.mutations]

theorem mutations_after :
    (writer.after events).server.mutations = writer.server.mutations ++
      ((writer.attempts events).filter Attempt.isReceived).map (·.mutation.command) := by
  induction events generalizing writer with
  | nil => exact (List.append_nil _).symm
  | cons event events ih =>
    rw [attempts, List.filter_append, List.map_append, ← List.append_assoc, ← mutations_step]
    exact ih (writer.step event)

/-! ## Tickets -/

theorem tickets_le_step : writer.tickets ≤ (writer.step event).tickets := by
  cases event with
  | get key => exact Nat.le_refl _
  | set key payload => cases haccepting : writer.accepting <;> simp [step, submitSet, haccepting]
  | delete keys => cases haccepting : writer.accepting <;> simp [step, submitDelete, haccepting]
  | begin =>
    cases hcurrent : writer.current <;> cases hqueue : writer.queue <;>
      simp [step, begin, hcurrent, hqueue]
  | finish => cases hcurrent : writer.current <;> simp [step, finish, hcurrent]
  | close => exact Nat.le_refl _
  | serverStatus listening failing => exact Nat.le_refl _

variable {writer event events}

/-- A deletion is accepted with the next ticket, which is then handed out. -/
theorem ticket_of_accepts {mutation : Mutation} {ticket : Nat}
    (hmutation : mutation ∈ writer.accepts event) (hticket : mutation.ticket? = some ticket) :
    ticket = writer.tickets ∧ ticket < (writer.step event).tickets := by
  cases event with
  | set key payload =>
    cases haccepting : writer.accepting with
    | false => simp [accepts, haccepting] at hmutation
    | true =>
      obtain rfl : mutation = .set key payload := by simpa [accepts, haccepting] using hmutation
      cases hticket
  | delete keys =>
    cases haccepting : writer.accepting with
    | false => simp [accepts, haccepting] at hmutation
    | true =>
      obtain rfl : mutation = .delete keys writer.tickets := by
        simpa [accepts, haccepting] using hmutation
      cases hticket
      simp [step, submitDelete, haccepting]
  | get _ | begin | finish | close | serverStatus _ _ => cases hmutation

/-- Where a reply comes from: it was there, it is the result of an attempt, or it refuses a
deletion that was not accepted. -/
theorem reply_of_step {ticket : Nat} {result : Except Failure Unit}
    (hreply : (ticket, result) ∈ (writer.step event).replies) :
    (ticket, result) ∈ writer.replies ∨
      (∃ attempt ∈ writer.completes event, attempt.mutation.ticket? = some ticket ∧
        attempt.result = result) ∨
      (ticket = writer.tickets ∧ ticket < (writer.step event).tickets) := by
  cases event with
  | delete keys =>
    cases haccepting : writer.accepting with
    | true => exact .inl (by simpa [step, submitDelete, haccepting] using hreply)
    | false =>
      simp only [step, submitDelete, haccepting, Bool.false_eq_true, if_false, List.mem_cons,
        Prod.mk.injEq] at hreply
      rcases hreply with ⟨rfl, -⟩ | hold
      · exact .inr (.inr ⟨rfl, by simp [step, submitDelete, haccepting]⟩)
      · exact .inl hold
  | finish =>
    cases hcurrent : writer.current with
    | none => exact .inl (by simpa [step, finish, hcurrent] using hreply)
    | some mutation =>
      cases hticket : mutation.ticket? with
      | none => exact .inl (by simpa [step, finish, hcurrent, hticket] using hreply)
      | some own =>
        simp only [step, finish, hcurrent, hticket, List.mem_cons, Prod.mk.injEq] at hreply
        rcases hreply with ⟨rfl, rfl⟩ | hold
        · refine .inr (.inl ⟨⟨mutation, _⟩, ?_, hticket, rfl⟩)
          simp [completes, hcurrent, Except.map]
        · exact .inl hold
  | set key payload =>
    cases haccepting : writer.accepting <;>
      exact .inl (by simpa [step, submitSet, haccepting] using hreply)
  | begin =>
    cases hcurrent : writer.current <;> cases hqueue : writer.queue <;>
      exact .inl (by simpa [step, begin, hcurrent, hqueue] using hreply)
  | get _ | close | serverStatus _ _ => exact .inl hreply

/-- A reply stays. -/
theorem mem_replies_step {reply : Nat × Except Failure Unit} (hreply : reply ∈ writer.replies) :
    reply ∈ (writer.step event).replies := by
  cases event with
  | get _ | close | serverStatus _ _ => exact hreply
  | set key payload =>
    cases haccepting : writer.accepting <;> simpa [step, submitSet, haccepting] using hreply
  | delete keys =>
    cases haccepting : writer.accepting <;> simp [step, submitDelete, haccepting, hreply]
  | begin =>
    cases hcurrent : writer.current <;> cases hqueue : writer.queue <;>
      simpa [step, begin, hcurrent, hqueue] using hreply
  | finish =>
    cases hcurrent : writer.current with
    | none => simpa [step, finish, hcurrent] using hreply
    | some mutation =>
      cases hticket : mutation.ticket? <;> simp [step, finish, hcurrent, hticket, hreply]

theorem mem_replies_after {reply : Nat × Except Failure Unit} (hreply : reply ∈ writer.replies) :
    reply ∈ (writer.after events).replies := by
  induction events generalizing writer with
  | nil => exact hreply
  | cons event events ih => exact ih (mem_replies_step hreply)

/-- Every ticket that is waiting or was replied to was handed out before. -/
structure IsTicketed (writer : CacheWriter) : Prop where
  pending : ∀ mutation ∈ writer.pending, ∀ ticket, mutation.ticket? = some ticket →
    ticket < writer.tickets
  replies : ∀ ticket result, (ticket, result) ∈ writer.replies → ticket < writer.tickets

theorem isTicketed_ofServer (server : CacheServer) : (ofServer server).IsTicketed where
  pending _ hmutation := absurd hmutation List.not_mem_nil
  replies _ _ hreply := absurd hreply List.not_mem_nil

theorem IsTicketed.step (hticketed : writer.IsTicketed) (event : Event) :
    (writer.step event).IsTicketed where
  pending mutation hmutation ticket hticket := by
    have hmem : mutation ∈ writer.pending ++ writer.accepts event := by
      rw [← completes_append_pending_step]
      exact List.mem_append_right _ hmutation
    rcases List.mem_append.1 hmem with hpending | haccepted
    · exact (hticketed.pending mutation hpending ticket hticket).trans_le
        (tickets_le_step writer event)
    · exact (ticket_of_accepts haccepted hticket).2
  replies ticket result hreply := by
    rcases reply_of_step hreply with hold | ⟨attempt, hattempt, hticket, -⟩ | ⟨-, hlt⟩
    · exact (hticketed.replies ticket result hold).trans_le (tickets_le_step writer event)
    · have hmem : attempt.mutation ∈ writer.pending := by
        cases event with
        | finish =>
          obtain ⟨mutation, hcurrent, rfl⟩ := List.mem_map.1 hattempt
          exact List.mem_append_left _ hcurrent
        | get _ | set _ _ | delete _ | begin | close | serverStatus _ _ => cases hattempt
      exact (hticketed.pending _ hmem ticket hticket).trans_le (tickets_le_step writer event)
    · exact hlt

theorem IsTicketed.after (hticketed : writer.IsTicketed) (events : List Event) :
    (writer.after events).IsTicketed := by
  induction events generalizing writer with
  | nil => exact hticketed
  | cons event events ih => exact ih (hticketed.step event)

/-- Only a call of `set` puts a write into the queue. -/
theorem mem_of_set_mem_accepted {key payload : String}
    (hset : .set key payload ∈ writer.accepted events) : .set key payload ∈ events := by
  induction events generalizing writer with
  | nil => cases hset
  | cons event events ih =>
    rcases List.mem_append.1 hset with hfirst | hlater
    · cases event with
      | set _ _ =>
        cases haccepting : writer.accepting <;>
          simp_all [accepts]
      | delete _ => cases haccepting : writer.accepting <;> simp [accepts, haccepting] at hfirst
      | get _ | begin | finish | close | serverStatus _ _ => cases hfirst
    · exact List.mem_cons_of_mem _ (ih hlater)

theorem le_ticket_of_accepted {mutation : Mutation} {ticket : Nat}
    (hmutation : mutation ∈ writer.accepted events) (hticket : mutation.ticket? = some ticket) :
    writer.tickets ≤ ticket := by
  induction events generalizing writer with
  | nil => cases hmutation
  | cons event events ih =>
    rcases List.mem_append.1 hmutation with hfirst | hlater
    · exact (ticket_of_accepts hfirst hticket).1.ge
    · exact (tickets_le_step writer event).trans (ih hlater)

/-- No ticket is handed out twice. -/
theorem nodup_tickets_accepted (writer : CacheWriter) (events : List Event) :
    ((writer.accepted events).filterMap Mutation.ticket?).Nodup := by
  induction events generalizing writer with
  | nil => exact List.nodup_nil
  | cons event events ih =>
    have hfirst : ((writer.accepts event).filterMap Mutation.ticket?).Nodup := by
      cases event with
      | set key payload =>
        cases haccepting : writer.accepting <;> simp only [accepts, haccepting] <;>
          exact List.nodup_nil
      | delete keys =>
        cases haccepting : writer.accepting <;> simp [accepts, haccepting, Mutation.ticket?]
      | get _ | begin | finish | close | serverStatus _ _ => exact List.nodup_nil
    rw [accepted, List.filterMap_append]
    refine List.nodup_append.2 ⟨hfirst, ih _, ?_⟩
    rintro ticket hticket other hother rfl
    obtain ⟨first, hmem, hfirstTicket⟩ := List.mem_filterMap.1 hticket
    obtain ⟨later, hmemLater, hlaterTicket⟩ := List.mem_filterMap.1 hother
    have hlt := (ticket_of_accepts hmem hfirstTicket).2
    exact absurd (le_ticket_of_accepted hmemLater hlaterTicket) (Nat.not_le.2 hlt)

/-- A reply to a ticket that was handed out before a run comes from an attempt of the run. -/
theorem reply_of_after {ticket : Nat} {result : Except Failure Unit}
    (hticket : ticket < writer.tickets)
    (hreply : (ticket, result) ∈ (writer.after events).replies) :
    (ticket, result) ∈ writer.replies ∨ ∃ attempt ∈ writer.attempts events,
      attempt.mutation.ticket? = some ticket ∧ attempt.result = result := by
  induction events generalizing writer with
  | nil => exact .inl hreply
  | cons event events ih =>
    rcases ih (hticket.trans_le (tickets_le_step writer event)) hreply with
      hnow | ⟨attempt, hattempt, hown⟩
    · rcases reply_of_step hnow with hold | ⟨attempt, hattempt, hown⟩ | ⟨rfl, -⟩
      · exact .inl hold
      · exact .inr ⟨attempt, List.mem_append_left _ hattempt, hown⟩
      · exact absurd hticket (Nat.lt_irrefl _)
    · exact .inr ⟨attempt, List.mem_append_right _ hattempt, hown⟩

/-! ## Deletions -/

/-- A list without repeated tickets splits at a ticket in one way only. -/
theorem split_eq_of_ticket {before after before' after' : List Mutation}
    {mutation mutation' : Mutation} {ticket : Nat}
    (heq : before ++ mutation :: after = before' ++ mutation' :: after')
    (hnodup : ((before ++ mutation :: after).filterMap Mutation.ticket?).Nodup)
    (hticket : mutation.ticket? = some ticket) (hticket' : mutation'.ticket? = some ticket) :
    before = before' ∧ mutation = mutation' ∧ after = after' ∧
      ∀ other ∈ before ++ after, other.ticket? ≠ some ticket := by
  have htickets : (before ++ mutation :: after).filterMap Mutation.ticket? =
      before.filterMap Mutation.ticket? ++ ticket :: after.filterMap Mutation.ticket? := by
    rw [List.filterMap_append, List.filterMap_cons_some hticket]
  rw [htickets, List.nodup_middle, List.nodup_cons, ← List.filterMap_append] at hnodup
  have hother : ∀ other ∈ before ++ after, other.ticket? ≠ some ticket :=
    fun other hmem hsame => hnodup.1 (List.mem_filterMap.2 ⟨other, hmem, hsame⟩)
  have hbefore : mutation' ∉ before := fun hmem =>
    hother _ (List.mem_append_left _ hmem) hticket'
  have hafter : mutation' ∉ after := fun hmem =>
    hother _ (List.mem_append_right _ hmem) hticket'
  obtain ⟨hfront, hsame, hback⟩ := (List.append_cons_inj_of_notMem hbefore hafter).1 heq
  exact ⟨hfront, hsame, hback, hother⟩

theorem accepted_delete {before : List Event} {keys : List String}
    (haccepting : (writer.after before).accepting = true) (rest : List Event) :
    writer.accepted (before ++ .delete keys :: rest) =
      writer.accepted before ++ .delete keys (writer.after before).tickets ::
        ((writer.after before).step (.delete keys)).accepted rest := by
  rw [accepted_append, accepted, accepts, haccepting]
  rfl

/-- The reply to an accepted deletion was not there before it, so an attempt after it made it. -/
theorem exists_attempt_of_reply (hticketed : writer.IsTicketed) {keys : List String}
    {result : Except Failure Unit} (haccepting : writer.accepting = true)
    (hreply : (writer.tickets, result) ∈ ((writer.step (.delete keys)).after events).replies) :
    ∃ attempt ∈ (writer.step (.delete keys)).attempts events,
      attempt.mutation.ticket? = some writer.tickets ∧ attempt.result = result := by
  have hstep : (writer.step (.delete keys)).replies = writer.replies ∧
      (writer.step (.delete keys)).tickets = writer.tickets + 1 := by
    simp [step, submitDelete, haccepting]
  refine (reply_of_after (by omega) hreply).resolve_left fun hold => ?_
  rw [hstep.1] at hold
  exact absurd (hticketed.replies _ _ hold) (Nat.lt_irrefl _)

/-- The reply to an accepted deletion is the result of its own attempt, which follows the attempts
at everything that was accepted before it. -/
theorem attempts_eq_of_reply {server : CacheServer} {before rest : List Event} {keys : List String}
    {result : Except Failure Unit}
    (haccepting : ((ofServer server).after before).accepting = true)
    (hreply : (((ofServer server).after before).tickets, result) ∈
      ((ofServer server).after (before ++ .delete keys :: rest)).replies) :
    ∃ earlier later : List Attempt,
      (ofServer server).attempts (before ++ .delete keys :: rest) =
        earlier ++ ⟨.delete keys ((ofServer server).after before).tickets, result⟩ :: later ∧
      earlier.map Attempt.mutation = (ofServer server).accepted before ∧
      later.map Attempt.mutation ++
          ((ofServer server).after (before ++ .delete keys :: rest)).pending =
        (((ofServer server).after before).step (.delete keys)).accepted rest ∧
      ∀ attempt ∈ earlier ++ later,
        attempt.mutation.ticket? ≠ some ((ofServer server).after before).tickets := by
  set now := (ofServer server).after before with hnow
  have hafter : (ofServer server).after (before ++ .delete keys :: rest) =
      (now.step (.delete keys)).after rest := after_append _ _ _
  have hattempts : (ofServer server).attempts (before ++ .delete keys :: rest) =
      (ofServer server).attempts before ++ (now.step (.delete keys)).attempts rest :=
    attempts_append _ _ _
  have haccepted : (ofServer server).accepted (before ++ .delete keys :: rest) = _ :=
    accepted_delete haccepting rest
  rw [hafter] at hreply ⊢
  obtain ⟨attempt, hattempt, hticket, rfl⟩ :=
    exists_attempt_of_reply ((isTicketed_ofServer server).after before) haccepting hreply
  obtain ⟨middle, later, hsplit⟩ := List.append_of_mem hattempt
  have htotal : ((ofServer server).attempts before ++ middle).map Attempt.mutation ++
      attempt.mutation ::
        (later.map Attempt.mutation ++ ((now.step (.delete keys)).after rest).pending) =
      (ofServer server).accepted before ++
        .delete keys now.tickets :: (now.step (.delete keys)).accepted rest := by
    have hall := attempts_append_pending (ofServer server) (before ++ .delete keys :: rest)
    rw [hattempts, hsplit, haccepted, hafter, pending_ofServer] at hall
    simpa only [List.nil_append, List.map_append, List.map_cons, List.append_assoc,
      List.cons_append] using hall
  have hnodup := nodup_tickets_accepted (ofServer server) (before ++ .delete keys :: rest)
  rw [haccepted, ← htotal] at hnodup
  obtain ⟨hearlier, hmutation, hlater, hother⟩ := split_eq_of_ticket htotal hnodup hticket rfl
  refine ⟨(ofServer server).attempts before ++ middle, later, ?_, hearlier, hlater, ?_⟩
  · rw [hattempts, hsplit, ← hmutation, List.append_assoc]
  · intro other hmem
    refine hother _ ?_
    rw [← List.append_assoc, ← List.map_append]
    exact List.mem_append_left _ (List.mem_map_of_mem hmem)

theorem mem_replies_of_reply? {ticket : Nat} {result : Except Failure Unit}
    (hreply : writer.reply? ticket = some result) : (ticket, result) ∈ writer.replies := by
  obtain ⟨newer, older, hsplit, -⟩ := List.lookup_eq_some_iff.1 hreply
  rw [hsplit]
  exact List.mem_append_right _ List.mem_cons_self

/-- A deletion that comes after the queue was closed learns just that. -/
theorem eq_writerStopped_of_reply (hticketed : writer.IsTicketed) {keys : List String}
    {result : Except Failure Unit} (hclosed : writer.accepting = false)
    (hreply : (writer.tickets, result) ∈ ((writer.step (.delete keys)).after events).replies) :
    result = .error .writerStopped := by
  have hstep : writer.step (.delete keys) = { writer with
      tickets := writer.tickets + 1
      replies := (writer.tickets, .error .writerStopped) :: writer.replies } := by
    simp [step, submitDelete, hclosed]
  rcases reply_of_after (by simp [hstep]) hreply with hnow | ⟨attempt, hattempt, hticket, -⟩
  · rw [hstep] at hnow
    rcases List.mem_cons.1 hnow with hnew | hold
    · exact (Prod.mk.inj hnew).2
    · exact absurd (hticketed.replies _ _ hold) (Nat.lt_irrefl _)
  · -- the ticket waits nowhere, and later ones are larger
    have hmem : attempt.mutation ∈
        (writer.step (.delete keys)).pending ++ (writer.step (.delete keys)).accepted events := by
      rw [← attempts_append_pending]
      exact List.mem_append_left _ (List.mem_map_of_mem hattempt)
    rcases List.mem_append.1 hmem with hpending | haccepted
    · rw [hstep] at hpending
      exact absurd (hticketed.pending _ hpending _ hticket) (Nat.lt_irrefl _)
    · have hle := le_ticket_of_accepted haccepted hticket
      rw [hstep] at hle
      exact absurd hle (Nat.not_succ_le_self _)

/-- A key that is found although its deletion succeeded was set again after the deletion was
accepted. -/
theorem set_accepted_of_get? {server : CacheServer} {before rest : List Event} {keys : List String}
    (hreply : (((ofServer server).after before).tickets, .ok ()) ∈
      ((ofServer server).after (before ++ .delete keys :: rest)).replies)
    {key payload : String} (hkey : key ∈ keys)
    (hpayload : ((ofServer server).after (before ++ .delete keys :: rest)).server.store.get? key =
      some payload) :
    .set key payload ∈ (((ofServer server).after before).step (.delete keys)).accepted rest := by
  have haccepting : ((ofServer server).after before).accepting = true := by
    by_contra hclosed
    rw [after_append] at hreply
    cases eq_writerStopped_of_reply ((isTicketed_ofServer server).after before)
      (Bool.eq_false_of_not_eq_true hclosed) hreply
  obtain ⟨earlier, later, hattempts, -, hlater, -⟩ := attempts_eq_of_reply haccepting hreply
  rw [store_after, hattempts, List.foldl_append, List.foldl_cons] at hpayload
  rcases Attempt.get?_foldl_effect hpayload with hkept | hset
  · have herased : (PayloadStore.erase _ keys).get? key = some payload := hkept
    rw [PayloadStore.get?_erase, if_pos hkey] at herased
    cases herased
  · rw [← hlater]
    exact List.mem_append_left _ hset

/-- What the callers of one writer can rely on, whatever the order of their calls, of the writer's
turns and of the server's failures.  The attempts, the mutation in hand and the queue are the
accepted mutations, in order; the server holds what the attempts made of its store, and the
mutations that it received are the attempts that reached it, each once and in order; the caller of
a deletion learns the result of its own deletion, once everything accepted before it was attempted
too; and a key that was deleted is gone until it is set again. -/
theorem mutations_attempted_in_order (server : CacheServer) (events : List Event) :
    ((ofServer server).attempts events).map Attempt.mutation ++
        ((ofServer server).after events).current.toList ++ ((ofServer server).after events).queue =
      (ofServer server).accepted events ∧
    ((ofServer server).after events).server.store =
      ((ofServer server).attempts events).foldl Attempt.effect server.store ∧
    ((ofServer server).after events).server.mutations = server.mutations ++
      (((ofServer server).attempts events).filter Attempt.isReceived).map (·.mutation.command) ∧
    ∀ (before rest : List Event) (keys : List String) (result : Except Failure Unit),
      events = before ++ .delete keys :: rest →
      ((ofServer server).after events).reply? ((ofServer server).after before).tickets =
        some result →
      (((ofServer server).after before).accepting = false → result = .error .writerStopped) ∧
      (((ofServer server).after before).accepting = true →
        ∃ earlier later : List Attempt,
          (ofServer server).attempts events =
            earlier ++
              ⟨.delete keys ((ofServer server).after before).tickets, result⟩ :: later ∧
          earlier.map Attempt.mutation = (ofServer server).accepted before ∧
          ∀ attempt ∈ earlier ++ later,
            attempt.mutation.ticket? ≠ some ((ofServer server).after before).tickets) ∧
      (result = .ok () → ∀ key ∈ keys,
        (∀ payload, .set key payload ∉
          (((ofServer server).after before).step (.delete keys)).accepted rest) →
        ((ofServer server).after events).server.store.get? key = none) := by
  refine ⟨?_, store_after _ _, mutations_after _ _, ?_⟩
  · rw [List.append_assoc]
    exact attempts_append_pending (ofServer server) events
  · rintro before rest keys result rfl hreply
    have hmem := mem_replies_of_reply? hreply
    refine ⟨fun hclosed => ?_, fun haccepting => ?_, ?_⟩
    · rw [after_append] at hmem
      exact eq_writerStopped_of_reply ((isTicketed_ofServer server).after before) hclosed hmem
    · obtain ⟨earlier, later, hattempts, hearlier, -, hother⟩ :=
        attempts_eq_of_reply haccepting hmem
      exact ⟨earlier, later, hattempts, hearlier, hother⟩
    · rintro rfl key hkey hset
      cases hpayload : ((ofServer server).after (before ++ .delete keys :: rest)).server.store.get?
          key with
      | none => rfl
      | some payload => exact absurd (set_accepted_of_get? hmem hkey hpayload) (hset payload)

/-- A run in which a deletion fails and the same key is deleted again. -/
def failedDeletion : List Event :=
  [.set "key" "payload", .delete ["key"], .begin, .finish, .serverStatus true true, .begin,
    .finish, .get "key", .serverStatus true false, .delete ["key"], .begin, .finish]

theorem mutations_attempted_in_order_failedDeletion :
    ((ofServer .listeningEmpty).after failedDeletion).reply? 0 =
      some (.error CacheServer.commandFailed) ∧
    ((ofServer .listeningEmpty).after failedDeletion).reply? 1 = some (.ok ()) ∧
    ((ofServer .listeningEmpty).after failedDeletion).server.mutations =
      [.set "key" "payload", .delete ["key"], .delete ["key"]] ∧
    ((ofServer .listeningEmpty).after failedDeletion).server.store.get? "key" = none := by
  obtain ⟨-, -, hreceived, hdeletions⟩ :=
    mutations_attempted_in_order .listeningEmpty failedDeletion
  obtain ⟨-, -, hgone⟩ := hdeletions (failedDeletion.take 9) [.begin, .finish] ["key"] (.ok ()) rfl
    rfl
  exact ⟨rfl, rfl, hreceived, hgone rfl "key" List.mem_cons_self fun payload => List.not_mem_nil⟩

end CacheWriter

end MangaRecommender
