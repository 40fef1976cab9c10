import MangaRecommender.Cache.Store

/-!
# Writing behind

Mutations of a remote cache pass through one queue, so that a deletion never overtakes an earlier
write. A write is accepted and forgotten; the caller of a deletion holds a ticket and waits for
the reply to it. Closing the queue refuses later mutations and leaves the accepted ones to be
attempted. Reads go to the server directly.
-/

namespace MangaRecommender

/-- A command that a cache server receives. -/
inductive ServerCommand
  | get (key : String)
  | set (key payload : String)
  | delete (keys : List String)
  deriving DecidableEq, Repr

/-- A cache server, with the commands that it received, the last one first. -/
structure CacheServer where
  listening : Bool
  failing : Bool
  store : PayloadStore
  received : List ServerCommand

namespace CacheServer

def unreachable : CacheServer := ⟨false, false, .empty, []⟩

def listeningEmpty : CacheServer := ⟨true, false, .empty, []⟩

def connectionRefused : Failure := .cache "connection refused"

def commandFailed : Failure := .cache "the server answered with an error"

/-- The payload that a command answers with. -/
def payloadOf (store : PayloadStore) : ServerCommand → Option String
  | .get key => store.get? key
  | .set _ _ | .delete _ => none

def storeAfter (store : PayloadStore) : ServerCommand → PayloadStore
  | .get _ => store
  | .set key payload => store.insert key payload
  | .delete keys => store.erase keys

/-- Sends a command, which is applied or fails without effect on the store. -/
def execute (server : CacheServer) (command : ServerCommand) :
    Except Failure (Option String) × CacheServer :=
  if !server.listening then (.error connectionRefused, server)
  else
    let server := { server with received := command :: server.received }
    if server.failing then (.error commandFailed, server)
    else (.ok (payloadOf server.store command),
      { server with store := storeAfter server.store command })

end CacheServer

/-- A queued mutation; a deletion carries the ticket of its caller. -/
inductive Mutation
  | set (key payload : String)
  | delete (keys : List String) (ticket : Nat)
  deriving DecidableEq, Repr

namespace Mutation

def command : Mutation → ServerCommand
  | set key payload => .set key payload
  | delete keys _ => .delete keys

def ticket? : Mutation → Option Nat
  | set _ _ => none
  | delete _ ticket => some ticket

end Mutation

structure CacheWriter where
  server : CacheServer
  accepting : Bool
  queue : List Mutation
  /-- The mutation that is being attempted. -/
  current : Option Mutation
  /-- How many tickets were handed out; the next one is this number. -/
  tickets : Nat
  /-- The replies to tickets, the last one first. -/
  replies : List (Nat × Except Failure Unit)

namespace CacheWriter

def ofServer (server : CacheServer) : CacheWriter := ⟨server, true, [], none, 0, []⟩

/-- Accepts a write while the queue is open, and drops it afterwards. -/
def submitSet (writer : CacheWriter) (key payload : String) : CacheWriter :=
  if writer.accepting then { writer with queue := writer.queue ++ [.set key payload] } else writer

/-- Hands out a ticket for a deletion. Once the queue is closed the reply is there at once. -/
def submitDelete (writer : CacheWriter) (keys : List String) : Nat × CacheWriter :=
  let ticket := writer.tickets
  let writer := { writer with tickets := ticket + 1 }
  if writer.accepting then
    (ticket, { writer with queue := writer.queue ++ [.delete keys ticket] })
  else (ticket, { writer with replies := (ticket, .error .writerStopped) :: writer.replies })

/-- Takes the next mutation off the queue, unless one is being attempted. -/
def begin (writer : CacheWriter) : CacheWriter :=
  match writer.current, writer.queue with
  | none, mutation :: rest => { writer with queue := rest, current := some mutation }
  | _, _ => writer

/-- Completes the attempt at the current mutation and replies to its caller. -/
def finish (writer : CacheWriter) : CacheWriter :=
  match writer.current with
  | none => writer
  | some mutation =>
    let (result, server) := writer.server.execute mutation.command
    let replies := match mutation.ticket? with
      | none => writer.replies
      | some ticket => (ticket, result.map fun _ => ()) :: writer.replies
    { writer with server, replies, current := none }

def close (writer : CacheWriter) : CacheWriter := { writer with accepting := false }

/-- Reads a key from the server, whatever is queued. -/
def get (writer : CacheWriter) (key : String) : Except Failure (Option String) × CacheWriter :=
  let (result, server) := writer.server.execute (.get key)
  (result, { writer with server })

/-- What can happen next to a writer. -/
inductive Event
  | get (key : String)
  | set (key payload : String)
  | delete (keys : List String)
  | begin
  | finish
  | close
  | serverStatus (listening failing : Bool)

def step (writer : CacheWriter) : Event → CacheWriter
  | .get key => (writer.get key).2
  | .set key payload => writer.submitSet key payload
  | .delete keys => (writer.submitDelete keys).2
  | .begin => writer.begin
  | .finish => writer.finish
  | .close => writer.close
  | .serverStatus listening failing =>
    { writer with server := { writer.server with listening, failing } }

/-- Whether nothing is left to be attempted. -/
def isIdle (writer : CacheWriter) : Bool := writer.queue.isEmpty && writer.current.isNone

/-- Attempts the current mutation and `count` queued ones. -/
def settleFor : Nat → CacheWriter → CacheWriter
  | 0, writer => writer.finish
  | count + 1, writer => settleFor count writer.finish.begin

/-- Attempts everything that was accepted. -/
def settle (writer : CacheWriter) : CacheWriter := settleFor writer.queue.length writer

def reply? (writer : CacheWriter) (ticket : Nat) : Option (Except Failure Unit) :=
  writer.replies.lookup ticket

/-- Deletes keys and waits for the reply. No key needs no deletion. -/
def delete (writer : CacheWriter) (keys : List String) : Except Failure Unit × CacheWriter :=
  if keys.isEmpty then (.ok (), writer)
  else
    let (ticket, writer) := writer.submitDelete keys
    let writer := writer.settle
    ((writer.reply? ticket).getD (.error .deletionDropped), writer)

/-- Closes the queue and attempts what it holds. -/
def shutdown (writer : CacheWriter) : CacheWriter := writer.close.settle

end CacheWriter

end MangaRecommender
