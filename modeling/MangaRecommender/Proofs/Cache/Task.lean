import Mathlib
import MangaRecommender.Cache.Task
import MangaRecommender.Proofs.Cache.Writer

/-!
# A task is a run of its writer

Whatever happens to a task is to its writer a few events, or none, so that all that is known about
the runs of a writer holds of the writer of a task too.  The queue is open exactly while the task
serves, only the task itself closes it, and when the task stops nothing is held any more.
-/

namespace MangaRecommender

namespace CacheWriter

variable {writer : CacheWriter} {event : Event} {events : List Event}

/-! ## A closed queue -/

theorem accepting_step (writer : CacheWriter) (event : Event) :
    (writer.step event).accepting = match event with
      | .close => false
      | _ => writer.accepting := by
  cases event with
  | get _ | close | serverStatus _ _ => rfl
  | set key payload =>
    cases haccepting : writer.accepting <;> simp [step, submitSet, haccepting]
  | delete keys =>
    cases haccepting : writer.accepting <;> simp [step, submitDelete, haccepting]
  | begin =>
    cases hcurrent : writer.current <;> cases hqueue : writer.queue <;>
      simp [step, begin, hcurrent, hqueue]
  | finish => cases hcurrent : writer.current <;> simp [step, finish, hcurrent]

theorem accepting_step_of_closed (hclosed : writer.accepting = false) :
    (writer.step event).accepting = false := by
  rw [accepting_step]
  split
  · rfl
  · exact hclosed

theorem accepting_after_of_closed (hclosed : writer.accepting = false) :
    (writer.after events).accepting = false := by
  induction events generalizing writer with
  | nil => exact hclosed
  | cons event events ih => exact ih (accepting_step_of_closed hclosed)

/-- Nothing is accepted once the queue is closed. -/
theorem accepted_of_closed (hclosed : writer.accepting = false) : writer.accepted events = [] := by
  induction events generalizing writer with
  | nil => rfl
  | cons event events ih =>
    have hnone : writer.accepts event = [] := by cases event <;> simp [accepts, hclosed]
    rw [accepted, hnone, ih (accepting_step_of_closed hclosed), List.append_nil]

end CacheWriter

/-! ## What the writer sees of a task -/

namespace WriterTask

/-- The command that a call asks for, if it asks for any. -/
def Call.command? : Call → Option ServerCommand
  | set key payload => some (.set key payload)
  | delete keys => if keys.isEmpty then none else some (.delete keys)

def Event.command? : Event → Option ServerCommand
  | call request => request.command?
  | get _ | signal | turn | heed | serverStatus _ _ => none

/-- The commands that callers ask for in a run, the first one first. -/
def issued (events : List Event) : List ServerCommand := events.filterMap Event.command?

/-- What an event is to the writer of the task. -/
def writerEvents (task : WriterTask) : Event → List CacheWriter.Event
  | .call (.set key payload) => [.set key payload]
  | .call (.delete keys) => if keys.isEmpty then [] else [.delete keys]
  | .get key => [.get key]
  | .signal => []
  | .turn =>
    if task.phase = .stopped then []
    else if task.writer.current ≠ none then [.finish]
    else if task.writer.queue ≠ [] then [.begin]
    else if task.phase = .draining then []
    else if task.signalled then [.close]
    else []
  | .heed =>
    if task.phase = .serving ∧ task.writer.current = none ∧ task.signalled then [.close] else []
  | .serverStatus listening failing => [.serverStatus listening failing]

def trace (task : WriterTask) : List Event → List CacheWriter.Event
  | [] => []
  | event :: events => task.writerEvents event ++ (task.next event).trace events

/-- The queue is open exactly while the task serves, and a task that has stopped holds nothing. -/
structure IsOrderly (task : WriterTask) : Prop where
  serving_iff : task.phase = .serving ↔ task.writer.accepting = true
  holds_nothing : task.phase = .stopped → task.writer.pending = []

variable {task : WriterTask} {event : Event} {events : List Event}

theorem isOrderly_ofServer (server : CacheServer) : (ofServer server).IsOrderly where
  serving_iff := ⟨fun _ => rfl, fun _ => rfl⟩
  holds_nothing hstopped := by cases hstopped

theorem IsOrderly.accepting_eq_false (horderly : task.IsOrderly) (hphase : task.phase ≠ .serving) :
    task.writer.accepting = false :=
  Bool.eq_false_of_not_eq_true fun hopen => hphase (horderly.serving_iff.2 hopen)

/-- A task that stops does so with a closed queue and nothing in it, so that nothing is dropped. -/
theorem abandon_of_pending_eq_nil {writer : CacheWriter} (hclosed : writer.accepting = false)
    (hpending : writer.pending = []) : writer.abandon = writer := by
  obtain ⟨hcurrent, hqueue⟩ := List.append_eq_nil_iff.1 hpending
  have hnone : writer.current = none := by simpa using hcurrent
  cases writer
  simp_all [CacheWriter.abandon]

/-- What a turn of the task does, and what it is to the writer. -/
inductive Turn (task : WriterTask) : List CacheWriter.Event → WriterTask → Prop
  | rest (hphase : task.phase = .stopped) : Turn task [] task
  | complete (hphase : task.phase ≠ .stopped) (hcurrent : task.writer.current ≠ none) :
      Turn task [.finish] { task with writer := task.writer.finish }
  | take (hphase : task.phase ≠ .stopped) (hcurrent : task.writer.current = none)
      (hqueue : task.writer.queue ≠ []) : Turn task [.begin] { task with writer := task.writer.begin }
  | stop (hphase : task.phase = .draining) (hpending : task.writer.pending = []) :
      Turn task [] task.stop
  | drain (hphase : task.phase = .serving) (hpending : task.writer.pending = [])
      (hsignalled : task.signalled = true) : Turn task [.close] task.drain
  | wait (hphase : task.phase = .serving) (hpending : task.writer.pending = [])
      (hsignalled : task.signalled = false) : Turn task [] task

theorem turn_spec (task : WriterTask) : Turn task (task.writerEvents .turn) task.turn := by
  rw [turn, writerEvents]
  by_cases hstopped : task.phase = .stopped
  · rw [if_pos hstopped, if_pos hstopped]
    exact .rest hstopped
  rw [if_neg hstopped, if_neg hstopped]
  by_cases hcurrent : task.writer.current ≠ none
  · rw [if_pos hcurrent, if_pos hcurrent]
    exact .complete hstopped hcurrent
  rw [if_neg hcurrent, if_neg hcurrent]
  by_cases hqueue : task.writer.queue ≠ []
  · rw [if_pos hqueue, if_pos hqueue]
    exact .take hstopped (not_ne_iff.1 hcurrent) hqueue
  rw [if_neg hqueue, if_neg hqueue]
  have hpending : task.writer.pending = [] := by
    rw [CacheWriter.pending, not_ne_iff.1 hcurrent, not_ne_iff.1 hqueue]
    rfl
  by_cases hdraining : task.phase = .draining
  · rw [if_pos hdraining, if_pos hdraining]
    exact .stop hdraining hpending
  rw [if_neg hdraining, if_neg hdraining]
  have hserving : task.phase = .serving := by
    cases hphase : task.phase with
    | serving => rfl
    | draining => exact absurd hphase hdraining
    | stopped => exact absurd hphase hstopped
  by_cases hsignalled : task.signalled = true
  · rw [if_pos hsignalled, if_pos hsignalled]
    exact .drain hserving hpending hsignalled
  · rw [if_neg hsignalled, if_neg hsignalled]
    exact .wait hserving hpending (Bool.eq_false_of_not_eq_true hsignalled)

theorem Turn.writer {seen : List CacheWriter.Event} {moved : WriterTask}
    (hturn : Turn task seen moved) (horderly : task.IsOrderly) :
    moved.writer = task.writer.after seen := by
  cases hturn with
  | rest | complete | take | drain | wait => rfl
  | stop hphase hpending =>
    have hclosed := horderly.accepting_eq_false (hphase ▸ nofun)
    exact abandon_of_pending_eq_nil hclosed hpending

theorem writer_next (horderly : task.IsOrderly) (event : Event) :
    (task.next event).writer = task.writer.after (task.writerEvents event) := by
  cases event with
  | call request =>
    cases request with
    | set key payload => rfl
    | delete keys =>
      by_cases hkeys : keys.isEmpty = true
      · simp only [next, receive, writerEvents, hkeys, if_true]
        rfl
      · simp only [next, receive, writerEvents, hkeys, Bool.false_eq_true, if_false]
        rfl
  | get _ | signal | serverStatus _ _ => rfl
  | turn => exact (turn_spec task).writer horderly
  | heed =>
    simp only [next, heed, writerEvents]
    split <;> rfl

/-- Only the task itself closes its queue. -/
theorem accepting_call (task : WriterTask) (request : Call) :
    (task.next (.call request)).writer.accepting = task.writer.accepting := by
  cases request with
  | set key payload => exact CacheWriter.accepting_step task.writer (.set key payload)
  | delete keys =>
    by_cases hkeys : keys.isEmpty = true
    · simp only [next, receive, hkeys, if_true]
    · simp only [next, receive, hkeys, Bool.false_eq_true, if_false]
      exact CacheWriter.accepting_step task.writer (.delete keys)

theorem phase_call (task : WriterTask) (request : Call) :
    (task.next (.call request)).phase = task.phase := by
  cases request with
  | set key payload => rfl
  | delete keys => by_cases hkeys : keys.isEmpty = true <;> simp [next, receive, hkeys]

/-- To a task that has stopped nothing comes that it could attempt. -/
theorem IsOrderly.pending_next (horderly : task.IsOrderly) (hstopped : task.phase = .stopped)
    (event : Event) : (task.next event).writer.pending = [] := by
  have hclosed := horderly.accepting_eq_false (hstopped ▸ nofun)
  have hall := CacheWriter.attempts_append_pending task.writer (task.writerEvents event)
  rw [horderly.holds_nothing hstopped, CacheWriter.accepted_of_closed hclosed,
    ← writer_next horderly] at hall
  exact (List.append_eq_nil_iff.1 hall).2

theorem Turn.isOrderly {seen : List CacheWriter.Event} {moved : WriterTask}
    (hturn : Turn task seen moved) (horderly : task.IsOrderly) : moved.IsOrderly := by
  cases hturn with
  | rest | wait => exact horderly
  | complete hphase hcurrent =>
    refine ⟨?_, fun hstopped => absurd hstopped hphase⟩
    have hsame : task.writer.finish.accepting = task.writer.accepting :=
      CacheWriter.accepting_step task.writer .finish
    exact horderly.serving_iff.trans (Bool.eq_iff_iff.1 hsame.symm)
  | take hphase hcurrent hqueue =>
    refine ⟨?_, fun hstopped => absurd hstopped hphase⟩
    have hsame : task.writer.begin.accepting = task.writer.accepting :=
      CacheWriter.accepting_step task.writer .begin
    exact horderly.serving_iff.trans (Bool.eq_iff_iff.1 hsame.symm)
  | stop hphase hpending => exact ⟨⟨nofun, nofun⟩, fun _ => rfl⟩
  | drain hphase hpending hsignalled => exact ⟨⟨nofun, nofun⟩, nofun⟩

theorem IsOrderly.next (horderly : task.IsOrderly) (event : Event) :
    (task.next event).IsOrderly := by
  have hnothing := fun hstopped => horderly.pending_next hstopped event
  cases event with
  | call request =>
    constructor
    · rw [phase_call, accepting_call]
      exact horderly.serving_iff
    · rwa [phase_call]
  | get _ | signal | serverStatus _ _ => exact ⟨horderly.serving_iff, hnothing⟩
  | turn => exact (turn_spec task).isOrderly horderly
  | heed =>
    simp only [WriterTask.next, heed]
    split
    · exact ⟨⟨nofun, nofun⟩, nofun⟩
    · exact horderly

theorem IsOrderly.after (horderly : task.IsOrderly) (events : List Event) :
    (task.after events).IsOrderly := by
  induction events generalizing task with
  | nil => exact horderly
  | cons event events ih => exact ih (horderly.next event)

theorem writer_after (horderly : task.IsOrderly) (events : List Event) :
    (task.after events).writer = task.writer.after (task.trace events) := by
  induction events generalizing task with
  | nil => rfl
  | cons event events ih =>
    rw [trace, CacheWriter.after_append, ← writer_next horderly]
    exact ih (horderly.next event)

theorem after_append (task : WriterTask) (before events : List Event) :
    task.after (before ++ events) = (task.after before).after events :=
  List.foldl_append

theorem trace_append (task : WriterTask) (before events : List Event) :
    task.trace (before ++ events) = task.trace before ++ (task.after before).trace events := by
  induction before generalizing task with
  | nil => rfl
  | cons first before ih =>
    rw [List.cons_append, trace, ih, trace, List.append_assoc]
    rfl

/-! ## The moment at which the queue closes -/

/-- The event closes the queue of the task. -/
def ClosesQueue (task : WriterTask) (event : Event) : Prop :=
  task.writer.accepting = true ∧ (task.next event).writer.accepting = false

theorem command?_of_closesQueue (hcloses : task.ClosesQueue event) : event.command? = none := by
  cases event with
  | call request =>
    have hclosed := hcloses.2
    rw [accepting_call, hcloses.1] at hclosed
    cases hclosed
  | get _ | signal | turn | heed | serverStatus _ _ => rfl

/-- A queue that was open and is closed was closed by one event in between. -/
theorem exists_closesQueue (hopen : task.writer.accepting = true)
    (hclosed : (task.after events).writer.accepting = false) :
    ∃ before closing rest, events = before ++ closing :: rest ∧
      (task.after before).ClosesQueue closing := by
  induction events generalizing task with
  | nil => exact absurd (hopen.symm.trans hclosed) Bool.noConfusion
  | cons event events ih =>
    cases hnext : (task.next event).writer.accepting with
    | false => exact ⟨[], event, events, rfl, hopen, hnext⟩
    | true =>
      obtain ⟨before, closing, rest, rfl, hcloses⟩ := ih hnext hclosed
      exact ⟨event :: before, closing, rest, rfl, hcloses⟩

theorem accepting_of_accepting_after (horderly : task.IsOrderly)
    (hopen : (task.after events).writer.accepting = true) : task.writer.accepting = true := by
  by_contra hclosed
  rw [writer_after horderly, CacheWriter.accepting_after_of_closed
    (Bool.eq_false_of_not_eq_true hclosed)] at hopen
  cases hopen

theorem Turn.accepted {seen : List CacheWriter.Event} {moved : WriterTask}
    (hturn : Turn task seen moved) : task.writer.accepted seen = [] := by
  cases hturn <;> rfl

/-- While the queue is open, a call adds the command that it asks for, and no other event adds
any. -/
theorem accepted_writerEvents (hopen : task.writer.accepting = true) (event : Event) :
    (task.writer.accepted (task.writerEvents event)).map Mutation.command =
      event.command?.toList := by
  cases event with
  | call request =>
    cases request with
    | set key payload =>
      simp [writerEvents, CacheWriter.accepted, CacheWriter.accepts, hopen, Mutation.command,
        Event.command?, Call.command?]
    | delete keys =>
      by_cases hkeys : keys.isEmpty = true <;>
        simp [writerEvents, CacheWriter.accepted, CacheWriter.accepts, hopen, hkeys,
          Mutation.command, Event.command?, Call.command?]
  | get _ | signal | serverStatus _ _ => rfl
  | turn =>
    rw [(turn_spec task).accepted]
    rfl
  | heed =>
    simp only [writerEvents]
    split <;> rfl

theorem accepted_trace_of_open (horderly : task.IsOrderly)
    (hopen : (task.after events).writer.accepting = true) :
    (task.writer.accepted (task.trace events)).map Mutation.command = issued events := by
  induction events generalizing task with
  | nil => rfl
  | cons event events ih =>
    have hnow := accepting_of_accepting_after horderly hopen
    rw [trace, CacheWriter.accepted_append, List.map_append, accepted_writerEvents hnow,
      ← writer_next horderly, ih (horderly.next event) hopen, issued, issued, List.filterMap_cons]
    cases event.command? <;> rfl

/-- What is accepted in a run is what was asked for before the queue closed. -/
theorem accepted_trace_of_closesQueue (horderly : task.IsOrderly) {before rest : List Event}
    {closing : Event} (hcloses : (task.after before).ClosesQueue closing) :
    (task.writer.accepted (task.trace (before ++ closing :: rest))).map Mutation.command =
      issued before := by
  have hbefore := horderly.after before
  have hlate : ((task.after before).next closing).writer.accepted
      (((task.after before).next closing).trace rest) = [] :=
    CacheWriter.accepted_of_closed hcloses.2
  have hclosing : ((task.after before).writer.accepted
      ((task.after before).writerEvents closing)).map Mutation.command = [] := by
    rw [accepted_writerEvents hcloses.1, command?_of_closesQueue hcloses]
    rfl
  rw [trace_append, trace, CacheWriter.accepted_append, ← writer_after horderly,
    CacheWriter.accepted_append, ← writer_next hbefore, hlate, List.append_nil, List.map_append,
    hclosing, List.append_nil, accepted_trace_of_open horderly hcloses.1]

end WriterTask

end MangaRecommender
