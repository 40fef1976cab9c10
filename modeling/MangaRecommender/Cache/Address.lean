import MangaRecommender.Url

/-!
# The address of a cache server

A server is reached over a network, under the scheme `redis`, or through a socket in the file
system, under `unix` or `redis+unix`. On a network it has a host and perhaps a port, and the path
numbers a database; the name of a user and a password have to be texts. Of a socket the path is
that of its file, and the query numbers the database. In both a query may name the version of the
protocol.
-/

namespace MangaRecommender

inductive CacheAddress
  | network (host : String) (port : Nat) (database : Int)
  | socket (path : String) (database : Int)
  deriving DecidableEq, Repr

namespace CacheAddress

def standardPort : Nat := 6379

/-- The number of a database, which is zero where none is given. -/
def database? : List Char → Option Int
  | [] => some 0
  | number => (Text.readInteger Text.signed64 number).toOption

def protocolVersions : List (List Char) := ["2", "resp2", "3", "resp3"].map String.toList

/-- Whether the version that an address asks for, if any, is known. -/
def hasKnownProtocol (url : Url) : Bool :=
  (url.parameter? "protocol").all protocolVersions.contains

/-- A path without the slashes around it. -/
def withoutSlashes (path : List Char) : List Char :=
  let trimFront (path : List Char) : List Char := path.dropWhile (· == '/')
  (trimFront (trimFront path).reverse).reverse

def ofNetworkUrl? (url : Url) : Option CacheAddress := do
  let database ← database? (withoutSlashes url.path)
  let _ ← Text.percentText? url.user
  let _ ← Text.percentText? url.password
  if url.host.isEmpty then none
  else some (network (String.ofList url.host) (url.port.getD standardPort) database)

/-- A socket is one of this machine, so that no other host may be named. -/
def ofSocketUrl? (url : Url) : Option CacheAddress := do
  let database ← match url.parameter? "db" with
    | none => some 0
    | some number => (Text.readInteger Text.signed64 number).toOption
  if url.path.head? = some '/' ∧ (url.host = [] ∨ url.host = "localhost".toList) then
    some (socket (String.ofList url.path) database)
  else none

def ofText? (text : String) : Option CacheAddress := do
  let url ← Url.ofText? text.toList
  let address ← match String.ofList url.scheme with
    | "redis" => ofNetworkUrl? url
    | "unix" | "redis+unix" => ofSocketUrl? url
    | _ => none
  if hasKnownProtocol url then some address else none

end CacheAddress

end MangaRecommender
