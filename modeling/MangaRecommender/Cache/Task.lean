import MangaRecommender.Cache.Writer

/-!
# The task of a writer

A writer works its queue off in a task of its own, while any number of callers issue mutations. The
task serves until it is signalled to stop, or until nobody is left who could signal it. Then it
closes the queue, attempts what is left in it, and ends. What a task still held at its end
would be dropped, and whoever waits for it would learn just that.
-/

namespace MangaRecommender

/-- How far a task has come. -/
inductive TaskPhase
  | serving
  /-- The queue is closed, and what it holds is attempted. -/
  | draining
  | stopped
  deriving DecidableEq, Repr

structure WriterTask where
  writer : CacheWriter
  phase : TaskPhase
  /-- Whether the signal to stop was given, or can no longer be given. -/
  signalled : Bool

namespace CacheWriter

/-- Closes the queue and drops what is left to attempt; the tickets for it are void. -/
def abandon (writer : CacheWriter) : CacheWriter :=
  let held := writer.current.toList ++ writer.queue
  { writer with
    accepting := false
    queue := []
    current := none
    replies := (held.filterMap Mutation.ticket?).map (·, .error .deletionDropped) ++
      writer.replies }

end CacheWriter

namespace WriterTask

def ofServer (server : CacheServer) : WriterTask := ⟨.ofServer server, .serving, false⟩

/-- A call of a caller, who deletes one key or any number of them. -/
inductive Call
  | set (key payload : String)
  | delete (keys : List String)
  deriving DecidableEq, Repr

/-- What a call comes to at first: an answer, or a ticket to wait with. -/
inductive Reception
  | answered (answer : Except Failure Unit)
  | waiting (ticket : Nat)

/-- What can happen next to a task. -/
inductive Event
  | call (call : Call)
  | get (key : String)
  | signal
  /-- The task goes on. -/
  | turn
  /-- The task heeds the signal, although a mutation may have come in since it found none. -/
  | heed
  | serverStatus (listening failing : Bool)
  deriving DecidableEq, Repr

/-- Passes a call on to the queue. A write is answered at once, accepted or not, and no key needs
no deletion. -/
def receive (task : WriterTask) : Call → Reception × WriterTask
  | .set key payload =>
    (.answered (.ok ()), { task with writer := task.writer.submitSet key payload })
  | .delete keys =>
    if keys.isEmpty then (.answered (.ok ()), task)
    else
      let (ticket, writer) := task.writer.submitDelete keys
      (.waiting ticket, { task with writer })

/-- The answer to a call, once there is one. -/
def answer? (task : WriterTask) : Reception → Option (Except Failure Unit)
  | .answered answer => some answer
  | .waiting ticket => task.writer.reply? ticket

def drain (task : WriterTask) : WriterTask :=
  { task with writer := task.writer.close, phase := .draining }

def stop (task : WriterTask) : WriterTask :=
  { task with writer := task.writer.abandon, phase := .stopped }

/-- Completes the attempt at hand, or else takes the next mutation. Only without one a task heeds
the signal; and once the queue is closed and empty, it stops. -/
def turn (task : WriterTask) : WriterTask :=
  if task.phase = .stopped then task
  else if task.writer.current ≠ none then { task with writer := task.writer.finish }
  else if task.writer.queue ≠ [] then { task with writer := task.writer.begin }
  else if task.phase = .draining then task.stop
  else if task.signalled then task.drain
  else task

def heed (task : WriterTask) : WriterTask :=
  if task.phase = .serving ∧ task.writer.current = none ∧ task.signalled then task.drain else task

def next (task : WriterTask) : Event → WriterTask
  | .call call => (task.receive call).2
  | .get key => { task with writer := (task.writer.get key).2 }
  | .signal => { task with signalled := true }
  | .turn => task.turn
  | .heed => task.heed
  | .serverStatus listening failing =>
    { task with writer := task.writer.step (.serverStatus listening failing) }

def after (task : WriterTask) (events : List Event) : WriterTask := events.foldl next task

end WriterTask

end MangaRecommender
