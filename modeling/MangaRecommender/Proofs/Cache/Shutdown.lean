import Mathlib
import MangaRecommender.Proofs.Cache.Task

/-!
# A task that is shut down

The queue closes at one moment of a run, and every call comes before it or after it.  Callers are
not asked to stop, so that calls fall between any two steps of the task, and the signal may be
heeded while mutations wait.  Still a task that has stopped has attempted what was asked for before
the queue closed and nothing else, and no caller is left without an answer: a deletion before that
moment learns its own result, and one after it learns that it came too late.
-/

namespace MangaRecommender

namespace CacheWriter

variable {writer : CacheWriter} {event : Event} {events : List Event}

/-! ## Replies -/

theorem exists_reply?_of_mem {ticket : Nat} {result : Except Failure Unit}
    (hreply : (ticket, result) ∈ writer.replies) : ∃ answer, writer.reply? ticket = some answer := by
  cases hlookup : writer.reply? ticket with
  | some answer => exact ⟨answer, rfl⟩
  | none => simpa using List.lookup_eq_none_iff.1 hlookup _ hreply

/-- A completed attempt at a deletion is replied to. -/
theorem reply_of_completes {attempt : Attempt} {ticket : Nat}
    (hattempt : attempt ∈ writer.completes event) (hticket : attempt.mutation.ticket? = some ticket) :
    (ticket, attempt.result) ∈ (writer.step event).replies := by
  cases event with
  | finish =>
    obtain ⟨mutation, hcurrent, rfl⟩ := List.mem_map.1 hattempt
    simp only [Option.mem_toList] at hcurrent
    simp only [step, finish, Option.mem_def.1 hcurrent, hticket]
    exact List.mem_cons_self
  | get _ | set _ _ | delete _ | begin | close | serverStatus _ _ => cases hattempt

theorem reply_of_attempt {attempt : Attempt} {ticket : Nat}
    (hattempt : attempt ∈ writer.attempts events) (hticket : attempt.mutation.ticket? = some ticket) :
    (ticket, attempt.result) ∈ (writer.after events).replies := by
  induction events generalizing writer with
  | nil => cases hattempt
  | cons event events ih =>
    rcases List.mem_append.1 hattempt with hnow | hlater
    · have hreply := reply_of_completes hnow hticket
      exact show _ ∈ ((writer.step event).after events).replies from mem_replies_after hreply
    · exact ih hlater

/-- Nobody was told that a deletion was dropped. -/
def HasDroppedNone (writer : CacheWriter) : Prop :=
  ∀ ticket, (ticket, .error .deletionDropped) ∉ writer.replies

theorem execute_ne_dropped (server : CacheServer) (command : ServerCommand) :
    (server.execute command).1.map (fun _ => ()) ≠ .error .deletionDropped := by
  have hrefused : CacheServer.connectionRefused ≠ .deletionDropped := by decide
  have hfailed : CacheServer.commandFailed ≠ .deletionDropped := by decide
  cases hlistening : server.listening <;> cases hfailing : server.failing <;>
    simp [CacheServer.execute, hlistening, hfailing, Except.map, hrefused, hfailed]

theorem HasDroppedNone.step (hnone : writer.HasDroppedNone) (event : Event) :
    (writer.step event).HasDroppedNone := by
  intro ticket hreply
  cases event with
  | get _ | close | serverStatus _ _ => exact hnone ticket hreply
  | set key payload =>
    cases haccepting : writer.accepting <;>
      exact hnone ticket (by simpa [CacheWriter.step, submitSet, haccepting] using hreply)
  | begin =>
    cases hcurrent : writer.current <;> cases hqueue : writer.queue <;>
      exact hnone ticket (by simpa [CacheWriter.step, begin, hcurrent, hqueue] using hreply)
  | delete keys =>
    cases haccepting : writer.accepting with
    | true => exact hnone ticket (by simpa [CacheWriter.step, submitDelete, haccepting] using hreply)
    | false =>
      simp only [CacheWriter.step, submitDelete, haccepting, Bool.false_eq_true, if_false,
        List.mem_cons, Prod.mk.injEq] at hreply
      rcases hreply with ⟨-, hrefused⟩ | hold
      · exact absurd (Except.error.inj hrefused) (by decide)
      · exact hnone ticket hold
  | finish =>
    cases hcurrent : writer.current with
    | none => exact hnone ticket (by simpa [CacheWriter.step, finish, hcurrent] using hreply)
    | some mutation =>
      cases hticket : mutation.ticket? with
      | none =>
        exact hnone ticket (by simpa [CacheWriter.step, finish, hcurrent, hticket] using hreply)
      | some own =>
        simp only [CacheWriter.step, finish, hcurrent, hticket, List.mem_cons,
          Prod.mk.injEq] at hreply
        rcases hreply with ⟨-, hresult⟩ | hold
        · exact execute_ne_dropped _ _ hresult.symm
        · exact hnone ticket hold

theorem HasDroppedNone.after (hnone : writer.HasDroppedNone) (events : List Event) :
    (writer.after events).HasDroppedNone := by
  induction events generalizing writer with
  | nil => exact hnone
  | cons event events ih => exact ih (hnone.step event)

/-- Once the queue is closed, a deletion is replied to at once. -/
theorem mem_replies_delete_of_closed (hclosed : writer.accepting = false) (keys : List String) :
    (writer.tickets, .error .writerStopped) ∈ (writer.step (.delete keys)).replies := by
  simp [step, submitDelete, hclosed]

/-- A deletion is replied to at the latest when nothing is left to be attempted. -/
theorem exists_reply_of_pending_eq_nil (keys : List String)
    (hpending : ((writer.step (.delete keys)).after events).pending = []) :
    ∃ result, (writer.tickets, result) ∈ ((writer.step (.delete keys)).after events).replies := by
  cases haccepting : writer.accepting with
  | false => exact ⟨_, mem_replies_after (mem_replies_delete_of_closed haccepting keys)⟩
  | true =>
    have hall := attempts_append_pending (writer.step (.delete keys)) events
    rw [hpending, List.append_nil] at hall
    have hmem : .delete keys writer.tickets ∈ (writer.step (.delete keys)).pending := by
      simp [step, submitDelete, haccepting, pending]
    obtain ⟨attempt, hattempt, hmutation⟩ :=
      List.mem_map.1 (hall.symm ▸ List.mem_append_left _ hmem)
    exact ⟨attempt.result, reply_of_attempt hattempt (congrArg Mutation.ticket? hmutation)⟩

/-! ## Settling -/

theorem finish_current (writer : CacheWriter) : writer.finish.current = none := by
  cases hcurrent : writer.current <;> simp [finish, hcurrent]

theorem finish_queue (writer : CacheWriter) : writer.finish.queue = writer.queue := by
  cases hcurrent : writer.current <;> simp [finish, hcurrent]

theorem finish_of_current_eq_none (hcurrent : writer.current = none) : writer.finish = writer := by
  simp [finish, hcurrent]

theorem begin_queue (hcurrent : writer.current = none) :
    writer.begin.queue = writer.queue.tail := by
  cases hqueue : writer.queue <;> simp [begin, hcurrent, hqueue]

theorem close_finish (writer : CacheWriter) : writer.finish.close = writer.close.finish := by
  cases hcurrent : writer.current <;> simp [finish, close, hcurrent]

theorem close_begin (writer : CacheWriter) : writer.begin.close = writer.close.begin := by
  cases hcurrent : writer.current <;> cases hqueue : writer.queue <;>
    simp [begin, close, hcurrent, hqueue]

theorem settleFor_finish (count : Nat) (writer : CacheWriter) :
    settleFor count writer.finish = settleFor count writer := by
  have htwice : writer.finish.finish = writer.finish :=
    finish_of_current_eq_none (finish_current writer)
  cases count with
  | zero => exact htwice
  | succ count => rw [settleFor, settleFor, htwice]

theorem settle_finish (writer : CacheWriter) : writer.finish.settle = writer.settle := by
  rw [settle, settle, finish_queue, settleFor_finish]

theorem settle_begin (hcurrent : writer.current = none) : writer.begin.settle = writer.settle := by
  cases hqueue : writer.queue with
  | nil => simp [begin, hcurrent, hqueue]
  | cons mutation queue =>
    rw [settle, settle, begin_queue hcurrent, hqueue, List.tail_cons, List.length_cons, settleFor,
      finish_of_current_eq_none hcurrent]

theorem settle_of_pending_eq_nil (hpending : writer.pending = []) : writer.settle = writer := by
  obtain ⟨hcurrent, hqueue⟩ := List.append_eq_nil_iff.1 hpending
  rw [settle, hqueue]
  exact finish_of_current_eq_none (by simpa using hcurrent)

/-- The turns in which a writer attempts the current mutation and `count` queued ones. -/
def settling : Nat → List Event
  | 0 => [.finish]
  | count + 1 => .finish :: .begin :: settling count

theorem settleFor_eq_after (count : Nat) (writer : CacheWriter) :
    settleFor count writer = writer.after (settling count) := by
  induction count generalizing writer with
  | zero => rfl
  | succ count ih => exact ih writer.finish.begin

theorem pending_settleFor {count : Nat} (hqueue : writer.queue.length ≤ count) :
    (settleFor count writer).pending = [] := by
  induction count generalizing writer with
  | zero =>
    have hempty : writer.queue = [] := List.length_eq_zero_iff.1 (Nat.le_zero.1 hqueue)
    rw [settleFor, pending, finish_current, finish_queue, hempty]
    rfl
  | succ count ih =>
    refine ih ?_
    rw [begin_queue (finish_current writer), finish_queue, List.length_tail]
    omega

theorem ticket_submitDelete (writer : CacheWriter) (keys : List String) :
    (writer.submitDelete keys).1 = writer.tickets := by
  rw [submitDelete]
  split <;> rfl

/-- Whoever waits for a deletion is not told that it was dropped. -/
theorem HasDroppedNone.delete (hnone : writer.HasDroppedNone) (keys : List String) :
    (writer.delete keys).1 ≠ .error .deletionDropped := by
  by_cases hkeys : keys.isEmpty = true
  · simp [CacheWriter.delete, hkeys]
  let submitted := writer.step (.delete keys)
  let turns := settling submitted.queue.length
  have hsettle : submitted.settle = submitted.after turns := settleFor_eq_after _ _
  have hpending : (submitted.after turns).pending = [] := hsettle ▸ pending_settleFor le_rfl
  obtain ⟨result, hresult⟩ := exists_reply_of_pending_eq_nil keys hpending
  obtain ⟨answer, hanswer⟩ := exists_reply?_of_mem hresult
  have hdelete : (writer.delete keys).1 = answer := by
    have hreply : submitted.settle.reply? writer.tickets = some answer := hsettle ▸ hanswer
    simp only [CacheWriter.delete, hkeys, Bool.false_eq_true, if_false, ticket_submitDelete]
    exact congrArg (Option.getD · _) hreply
  rw [hdelete]
  rintro rfl
  exact (hnone.step (.delete keys)).after turns writer.tickets (mem_replies_of_reply? hanswer)

end CacheWriter

namespace WriterTask

variable {task moved : WriterTask} {seen : List CacheWriter.Event} {event : Event}
  {events : List Event}

/-! ## The task comes to its end -/

/-- How many turns a task is away from its end, if it need not wait for the signal. -/
def work (task : WriterTask) : Nat :=
  match task.phase with
  | .stopped => 0
  | .draining => 2 * task.writer.queue.length + task.writer.current.toList.length + 1
  | .serving => 2 * task.writer.queue.length + task.writer.current.toList.length + 2

theorem phase_of_work_eq_zero (hwork : task.work = 0) : task.phase = .stopped := by
  cases hphase : task.phase with
  | stopped => rfl
  | serving | draining => simp [work, hphase] at hwork

theorem work_le (task : WriterTask) : task.work ≤ 2 * task.writer.pending.length + 2 := by
  rw [CacheWriter.pending, List.length_append, work]
  split <;> omega

theorem work_le_of_closing (hphase : task.phase ≠ .serving) :
    task.work ≤ 2 * task.writer.pending.length + 1 := by
  rw [CacheWriter.pending, List.length_append, work]
  split
  · omega
  · omega
  · exact absurd ‹_› hphase

/-- The task is on the way to its end. -/
def IsEnding (task : WriterTask) : Prop := task.phase = .serving → task.signalled = true

theorem Turn.isEnding (hturn : Turn task seen moved) (hending : task.IsEnding) :
    moved.IsEnding := by
  cases hturn with
  | rest | complete | take | wait => exact hending
  | stop | drain => nofun

/-- Every turn of a task on the way to its end takes it one step nearer. -/
theorem Turn.work_le (hturn : Turn task seen moved) (hending : task.IsEnding) :
    moved.work ≤ task.work - 1 := by
  cases hturn with
  | rest hphase => simp [work, hphase]
  | complete hphase hcurrent =>
    obtain ⟨mutation, hmutation⟩ := Option.ne_none_iff_exists'.1 hcurrent
    simp only [work, CacheWriter.finish_current, CacheWriter.finish_queue, hmutation]
    split <;> simp
  | take hphase hcurrent hqueue =>
    obtain ⟨mutation, queue, hcons⟩ := List.exists_cons_of_ne_nil hqueue
    have hbegin : task.writer.begin.current = some mutation := by
      simp [CacheWriter.begin, hcurrent, hcons]
    simp only [work, CacheWriter.begin_queue hcurrent, hbegin, hcurrent, hcons]
    split <;> simp <;> omega
  | stop => exact Nat.zero_le _
  | drain hphase hpending =>
    have hdrain : task.drain.work =
        2 * task.writer.queue.length + task.writer.current.toList.length + 1 := rfl
    rw [hdrain, work, hphase]
    rfl
  | wait hphase hpending hsignalled =>
    cases hsignalled.symm.trans (hending hphase)

/-- Once the queue is closed, only turns of the task change what is left to do. -/
theorem IsOrderly.work_next (horderly : task.IsOrderly) (hphase : task.phase ≠ .serving)
    (hevent : event ≠ .turn) : (task.next event).work = task.work := by
  have hclosed := horderly.accepting_eq_false hphase
  cases event with
  | call request =>
    cases request with
    | set key payload => simp [WriterTask.next, receive, CacheWriter.submitSet, hclosed]
    | delete keys =>
      by_cases hkeys : keys.isEmpty = true <;>
        simp [WriterTask.next, receive, CacheWriter.submitDelete, hkeys, hclosed, work]
  | get _ | signal | serverStatus _ _ => rfl
  | turn => exact absurd rfl hevent
  | heed => simp [WriterTask.next, heed, hphase]

theorem IsOrderly.phase_next_ne_serving (horderly : task.IsOrderly)
    (hphase : task.phase ≠ .serving) (event : Event) : (task.next event).phase ≠ .serving := by
  intro hserving
  have hopen := (horderly.next event).serving_iff.1 hserving
  rw [writer_next horderly, CacheWriter.accepting_after_of_closed
    (horderly.accepting_eq_false hphase)] at hopen
  cases hopen

/-- Once the queue is closed, a task stops after as many turns as there is work left, whatever
happens between them. -/
theorem IsOrderly.phase_after_turns (horderly : task.IsOrderly) (hphase : task.phase ≠ .serving)
    (hturns : task.work ≤ events.count .turn) : (task.after events).phase = .stopped := by
  induction events generalizing task with
  | nil => exact phase_of_work_eq_zero (Nat.le_zero.1 hturns)
  | cons event events ih =>
    refine ih (horderly.next event) (horderly.phase_next_ne_serving hphase event) ?_
    by_cases hevent : event = .turn
    · subst hevent
      rw [List.count_cons_self] at hturns
      have hwork : task.turn.work ≤ task.work - 1 :=
        (turn_spec task).work_le fun hserving => absurd hserving hphase
      exact hwork.trans (Nat.sub_le_iff_le_add.2 hturns)
    · rw [List.count_cons_of_ne hevent] at hturns
      exact (horderly.work_next hphase hevent).trans_le hturns

/-- What shutting the writer down would make of it stays the same with every turn. -/
theorem Turn.shutdown (hturn : Turn task seen moved) (horderly : task.IsOrderly) :
    moved.writer.shutdown = task.writer.shutdown := by
  cases hturn with
  | rest | wait | drain => rfl
  | complete =>
    rw [CacheWriter.shutdown, CacheWriter.shutdown, CacheWriter.close_finish,
      CacheWriter.settle_finish]
  | take hphase hcurrent =>
    rw [CacheWriter.shutdown, CacheWriter.shutdown, CacheWriter.close_begin]
    exact CacheWriter.settle_begin hcurrent
  | stop hphase hpending =>
    have hclosed := horderly.accepting_eq_false (hphase ▸ nofun)
    exact congrArg CacheWriter.shutdown (abandon_of_pending_eq_nil hclosed hpending)

theorem IsOrderly.shutdown_of_stopped (horderly : task.IsOrderly) (hphase : task.phase = .stopped) :
    task.writer.shutdown = task.writer := by
  have hclose : task.writer.close = task.writer := by
    have hclosed := horderly.accepting_eq_false (hphase ▸ nofun)
    cases hwriter : task.writer
    simp_all [CacheWriter.close]
  rw [CacheWriter.shutdown, hclose]
  exact CacheWriter.settle_of_pending_eq_nil (horderly.holds_nothing hphase)

/-- A task that was signalled and is left alone stops with its writer shut down. -/
theorem IsOrderly.after_turns (horderly : task.IsOrderly) (hending : task.IsEnding) {turns : Nat}
    (hturns : task.work ≤ turns) :
    (task.after (.replicate turns .turn)).phase = .stopped ∧
      (task.after (.replicate turns .turn)).writer = task.writer.shutdown := by
  induction turns generalizing task with
  | zero =>
    have hphase := phase_of_work_eq_zero (Nat.le_zero.1 hturns)
    exact ⟨hphase, (horderly.shutdown_of_stopped hphase).symm⟩
  | succ turns ih =>
    have hturn := turn_spec task
    have hwork := (hturn.work_le hending).trans (Nat.sub_le_iff_le_add.2 hturns)
    obtain ⟨hphase, hwriter⟩ := ih (hturn.isOrderly horderly) (hturn.isEnding hending) hwork
    exact ⟨hphase, hwriter.trans (hturn.shutdown horderly)⟩

/-! ## Answers -/

/-- The attempts of the writer in a run of its task, the first one first. -/
def attempts (server : CacheServer) (events : List Event) : List Attempt :=
  (CacheWriter.ofServer server).attempts ((ofServer server).trace events)

/-- The answer to a call that comes after the queue was closed. -/
def Call.lateAnswer : Call → Except Failure Unit
  | set _ _ => .ok ()
  | delete keys => if keys.isEmpty then .ok () else .error (.internal "cache writer stopped")

theorem receive_delete {keys : List String} (hkeys : keys ≠ []) (task : WriterTask) :
    task.receive (.delete keys) =
      (.waiting task.writer.tickets, { task with writer := task.writer.step (.delete keys) }) := by
  rw [receive, if_neg (mt List.isEmpty_iff.1 hkeys), ← CacheWriter.ticket_submitDelete]
  rfl

theorem next_delete {keys : List String} (hkeys : keys ≠ []) (task : WriterTask) :
    task.next (.call (.delete keys)) =
      { task with writer := task.writer.step (.delete keys) } := by
  rw [next, receive_delete hkeys]

/-- A call that comes too late is answered at once and for ever. -/
theorem IsOrderly.answer?_of_closed (horderly : task.IsOrderly) (hticketed : task.writer.IsTicketed)
    (hclosed : task.writer.accepting = false) (request : Call) (rest : List Event) :
    ((task.next (.call request)).after rest).answer? (task.receive request).1 =
      some request.lateAnswer := by
  cases request with
  | set key payload => rfl
  | delete keys =>
    by_cases hkeys : keys = []
    · subst hkeys
      rfl
    rw [receive_delete hkeys, answer?, writer_after (horderly.next _), next_delete hkeys,
      Call.lateAnswer, if_neg (mt List.isEmpty_iff.1 hkeys)]
    have hreply := CacheWriter.mem_replies_delete_of_closed hclosed keys
    obtain ⟨result, hresult⟩ :=
      CacheWriter.exists_reply?_of_mem (CacheWriter.mem_replies_after hreply)
    rw [hresult, CacheWriter.eq_writerStopped_of_reply hticketed hclosed
      (CacheWriter.mem_replies_of_reply? hresult)]
    rfl

/-- A call that comes too late leaves the server and what is still to be attempted as they are. -/
theorem call_of_closed (hclosed : task.writer.accepting = false) (request : Call) :
    (task.next (.call request)).writer.server = task.writer.server ∧
      (task.next (.call request)).writer.pending = task.writer.pending := by
  cases request with
  | set key payload =>
    simp [WriterTask.next, receive, CacheWriter.submitSet, hclosed]
  | delete keys =>
    by_cases hkeys : keys.isEmpty = true <;>
      simp [WriterTask.next, receive, CacheWriter.submitDelete, hkeys, hclosed,
        CacheWriter.pending]

/-- No call is answered with the message that a deletion was dropped. -/
theorem answer?_ne_dropped (hnone : task.writer.HasDroppedNone) (asked : WriterTask)
    (request : Call) : task.answer? (asked.receive request).1 ≠ some (.error .deletionDropped) := by
  cases request with
  | set key payload => exact nofun
  | delete keys =>
    by_cases hkeys : keys = []
    · subst hkeys
      exact nofun
    rw [receive_delete hkeys]
    exact fun hdropped => hnone _ (CacheWriter.mem_replies_of_reply? hdropped)

/-! ## Runs from the start -/

variable (server : CacheServer)

theorem writer_after_ofServer (events : List Event) :
    ((ofServer server).after events).writer =
      (CacheWriter.ofServer server).after ((ofServer server).trace events) :=
  writer_after (isOrderly_ofServer server) events

theorem isTicketed_after (events : List Event) :
    ((ofServer server).after events).writer.IsTicketed := by
  rw [writer_after_ofServer]
  exact (CacheWriter.isTicketed_ofServer server).after _

theorem hasDroppedNone_after (events : List Event) :
    ((ofServer server).after events).writer.HasDroppedNone := by
  rw [writer_after_ofServer]
  exact CacheWriter.HasDroppedNone.after (fun _ => List.not_mem_nil) _

/-- What was attempted and what is still to be attempted is what was accepted. -/
theorem attempts_append_pending (events : List Event) :
    (attempts server events).map Attempt.mutation ++
        ((ofServer server).after events).writer.pending =
      (CacheWriter.ofServer server).accepted ((ofServer server).trace events) := by
  rw [writer_after_ofServer]
  exact CacheWriter.attempts_append_pending _ _

variable {server} {before rest : List Event} {keys : List String}

theorem trace_delete (hkeys : keys ≠ []) :
    (ofServer server).trace (before ++ .call (.delete keys) :: rest) =
      (ofServer server).trace before ++ .delete keys ::
        (((ofServer server).after before).next (.call (.delete keys))).trace rest := by
  rw [trace_append, trace, writerEvents, if_neg (mt List.isEmpty_iff.1 hkeys)]
  rfl

theorem answer?_delete (hkeys : keys ≠ []) (task asked : WriterTask) :
    task.answer? (asked.receive (.delete keys)).1 = task.writer.reply? asked.writer.tickets := by
  rw [receive_delete hkeys, answer?]

/-- The answer to an accepted deletion is the result of the attempt at it, which follows the
attempts at all that was asked for before. -/
theorem attempts_of_answer? (hkeys : keys ≠ [])
    (hopen : ((ofServer server).after before).writer.accepting = true) {answer : Except Failure Unit}
    (hanswer : ((ofServer server).after (before ++ .call (.delete keys) :: rest)).answer?
      (((ofServer server).after before).receive (.delete keys)).1 = some answer) :
    ∃ earlier own later, attempts server (before ++ .call (.delete keys) :: rest) =
        earlier ++ own :: later ∧
      earlier.map (·.mutation.command) = issued before ∧
      own.mutation.command = .delete keys ∧ own.result = answer := by
  have hbefore := accepted_trace_of_open (isOrderly_ofServer server) hopen
  rw [answer?_delete hkeys, writer_after_ofServer, writer_after_ofServer, trace_delete hkeys]
    at hanswer
  rw [writer_after_ofServer] at hopen
  obtain ⟨earlier, later, hattempts, hearlier, -, -⟩ :=
    CacheWriter.attempts_eq_of_reply hopen (CacheWriter.mem_replies_of_reply? hanswer)
  have hcommands : earlier.map (·.mutation.command) = issued before :=
    calc earlier.map (·.mutation.command)
        = (earlier.map Attempt.mutation).map Mutation.command := by rw [List.map_map]; rfl
      _ = ((CacheWriter.ofServer server).accepted ((ofServer server).trace before)).map
            Mutation.command := by rw [hearlier]
      _ = issued before := hbefore
  exact ⟨earlier, _, later, (congrArg _ (trace_delete hkeys)).trans hattempts, hcommands, rfl, rfl⟩

theorem exists_answer?_of_stopped (hkeys : keys ≠ [])
    (hstopped : ((ofServer server).after (before ++ .call (.delete keys) :: rest)).phase = .stopped) :
    ∃ answer, ((ofServer server).after (before ++ .call (.delete keys) :: rest)).answer?
      (((ofServer server).after before).receive (.delete keys)).1 = some answer := by
  have hpending := ((isOrderly_ofServer server).after _).holds_nothing hstopped
  have hafter : ((ofServer server).after (before ++ .call (.delete keys) :: rest)).writer =
      (((ofServer server).after before).writer.step (.delete keys)).after
        ((((ofServer server).after before).next (.call (.delete keys))).trace rest) := by
    rw [writer_after_ofServer, trace_delete hkeys, CacheWriter.after_append,
      ← writer_after_ofServer]
    rfl
  rw [hafter] at hpending
  obtain ⟨result, hresult⟩ := CacheWriter.exists_reply_of_pending_eq_nil keys hpending
  rw [answer?_delete hkeys, hafter]
  exact CacheWriter.exists_reply?_of_mem hresult

/-! ## The main result -/

/-- What callers of a writer can rely on when its task is shut down: every mutation that was
accepted is attempted, and every caller is answered. -/
structure SettlesAll (server : CacheServer) (events : List Event) : Prop where
  /-- The server holds what the attempts made of its store. -/
  store : ((ofServer server).after events).writer.server.store =
    (attempts server events).foldl Attempt.effect server.store
  /-- The mutations that the server received are the attempts that reached it, each once. -/
  received : ((ofServer server).after events).writer.server.mutations = server.mutations ++
    ((attempts server events).filter Attempt.isReceived).map (·.mutation.command)
  /-- A task that has stopped has closed its queue at one moment of the run. -/
  closed : ((ofServer server).after events).phase = .stopped →
    ∃ before closing rest, events = before ++ closing :: rest ∧
      ((ofServer server).after before).ClosesQueue closing
  /-- Only what was asked for before that moment is ever attempted, each mutation once and in
  order; and when the task has stopped, all of it was. -/
  attempted : ∀ before closing rest, events = before ++ closing :: rest →
    ((ofServer server).after before).ClosesQueue closing →
    (attempts server events).map (·.mutation.command) <+: issued before ∧
      (((ofServer server).after events).phase = .stopped →
        (attempts server events).map (·.mutation.command) = issued before)
  /-- A call that comes later has no effect and is answered accordingly. -/
  late : ∀ before request rest, events = before ++ .call request :: rest →
    ((ofServer server).after before).writer.accepting = false →
    ((ofServer server).after events).answer?
        (((ofServer server).after before).receive request).1 = some request.lateAnswer ∧
      (((ofServer server).after before).next (.call request)).writer.server =
        ((ofServer server).after before).writer.server ∧
      (((ofServer server).after before).next (.call request)).writer.pending =
        ((ofServer server).after before).writer.pending
  /-- A deletion that was accepted is answered with its own result, and is answered by the time
  that the task has stopped. -/
  deletions : ∀ before keys rest, events = before ++ .call (.delete keys) :: rest → keys ≠ [] →
    ((ofServer server).after before).writer.accepting = true →
    (∀ answer, ((ofServer server).after events).answer?
        (((ofServer server).after before).receive (.delete keys)).1 = some answer →
      ∃ earlier own later, attempts server events = earlier ++ own :: later ∧
        earlier.map (·.mutation.command) = issued before ∧
        own.mutation.command = .delete keys ∧ own.result = answer) ∧
    (((ofServer server).after events).phase = .stopped →
      ∃ answer, ((ofServer server).after events).answer?
        (((ofServer server).after before).receive (.delete keys)).1 = some answer)
  /-- Nobody is told that a deletion was dropped. -/
  not_dropped : (∀ before request rest, events = before ++ .call request :: rest →
      ((ofServer server).after events).answer?
        (((ofServer server).after before).receive request).1 ≠
          some (.error (.internal "cache writer dropped a delete"))) ∧
    ∀ keys, (((ofServer server).after events).writer.delete keys).1 ≠
      .error (.internal "cache writer dropped a delete")
  /-- Once the queue is closed, the task stops, whatever happens between its turns. -/
  ends : ((ofServer server).after events).phase ≠ .serving →
    ∀ more : List Event, 2 * ((ofServer server).after events).writer.pending.length + 1 ≤
        more.count .turn →
      ((ofServer server).after (events ++ more)).phase = .stopped
  /-- Once it is signalled and left alone, the task stops with its writer shut down. -/
  undisturbed : ((ofServer server).after events).signalled = true →
    ∀ turns, 2 * ((ofServer server).after events).writer.pending.length + 2 ≤ turns →
      ((ofServer server).after (events ++ .replicate turns .turn)).phase = .stopped ∧
      ((ofServer server).after (events ++ .replicate turns .turn)).writer =
        ((ofServer server).after events).writer.shutdown

/-- Shutting a task down loses no mutation and leaves no caller without an answer, in whatever
order the calls, the turns of the task, the signal and the failures of the server come. -/
theorem shutdown_settles_all (server : CacheServer) (events : List Event) :
    SettlesAll server events where
  store := by
    rw [writer_after_ofServer]
    exact CacheWriter.store_after _ _
  received := by
    rw [writer_after_ofServer]
    exact CacheWriter.mutations_after _ _
  closed hstopped := by
    have horderly := (isOrderly_ofServer server).after events
    exact exists_closesQueue rfl (horderly.accepting_eq_false (hstopped ▸ nofun))
  attempted := by
    rintro before closing rest rfl hcloses
    have hall := congrArg (List.map Mutation.command)
      (attempts_append_pending server (before ++ closing :: rest))
    have haccepted : ((CacheWriter.ofServer server).accepted
        ((ofServer server).trace (before ++ closing :: rest))).map Mutation.command =
          issued before := accepted_trace_of_closesQueue (isOrderly_ofServer server) hcloses
    rw [List.map_append, List.map_map] at hall
    refine ⟨⟨_, hall.trans haccepted⟩, fun hstopped => ?_⟩
    have hpending := ((isOrderly_ofServer server).after _).holds_nothing hstopped
    rw [hpending, List.map_nil, List.append_nil] at hall
    exact hall.trans haccepted
  late := by
    rintro before request rest rfl hclosed
    have horderly := (isOrderly_ofServer server).after before
    rw [after_append]
    exact ⟨horderly.answer?_of_closed (isTicketed_after server before) hclosed request rest,
      call_of_closed hclosed request⟩
  deletions := by
    rintro before keys rest rfl hkeys hopen
    exact ⟨fun answer hanswer => attempts_of_answer? hkeys hopen hanswer,
      exists_answer?_of_stopped hkeys⟩
  not_dropped := ⟨fun before request rest _ =>
      answer?_ne_dropped (hasDroppedNone_after server events) _ request,
    (hasDroppedNone_after server events).delete⟩
  ends hphase more hturns := by
    rw [after_append]
    exact ((isOrderly_ofServer server).after events).phase_after_turns hphase
      ((work_le_of_closing hphase).trans hturns)
  undisturbed hsignalled turns hturns := by
    rw [after_append]
    exact ((isOrderly_ofServer server).after events).after_turns (fun _ => hsignalled)
      ((work_le _).trans hturns)

/-- A task that heeds the signal although a write has come in, and a deletion that comes too late. -/
def lateDeletion : List Event :=
  [.signal, .call (.set "key" "payload"), .heed, .call (.delete ["key"]), .turn, .turn, .turn]

example : ((ofServer .listeningEmpty).after lateDeletion).phase = .stopped ∧
    (attempts .listeningEmpty lateDeletion).map (·.mutation.command) = [.set "key" "payload"] ∧
    ((ofServer .listeningEmpty).after lateDeletion).answer? (.waiting 0) =
      some (.error (.internal "cache writer stopped")) := ⟨rfl, rfl, rfl⟩

end WriterTask

end MangaRecommender
