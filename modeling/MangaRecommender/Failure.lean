/-!
# Failures

A failure has a kind and a text. Failures of the store, the cache or the program itself are
internal: their text is for the operator and a client only learns that there was one. The texts
of the other kinds are answers to the client.
-/

namespace MangaRecommender

inductive Failure
  | database (detail : String)
  | cache (detail : String)
  | internal (detail : String)
  | notFound (message : String)
  | badRequest (message : String)
  | unauthorized (message : String)
  | tooManyRequests (message : String)
  deriving DecidableEq, Repr

namespace Failure

/-- The text for the operator. -/
def display : Failure → String
  | database detail => "Database error: " ++ detail
  | cache detail => "Cache error: " ++ detail
  | internal detail => "Internal server error: " ++ detail
  | notFound message => "Not found: " ++ message
  | badRequest message => "Bad request: " ++ message
  | unauthorized message => "Unauthorized: " ++ message
  | tooManyRequests message => "Too many requests: " ++ message

def isInternal : Failure → Bool
  | database _ | cache _ | internal _ => true
  | notFound _ | badRequest _ | unauthorized _ | tooManyRequests _ => false

/-- The text for the client. -/
def publicMessage : Failure → String
  | database _ | cache _ | internal _ => "Internal server error"
  | notFound message | badRequest message | unauthorized message | tooManyRequests message =>
    message

/-- A collection that does not exist or belongs to somebody else. -/
def collectionNotFound : Failure := notFound "Collection not found."

def emptyList : Failure :=
  badRequest "Need at least 1 manga in the list to generate recommendations."

def emptyCollection : Failure :=
  badRequest "Need at least 1 manga in the collection to generate recommendations."

def pageTooSmall : Failure := badRequest "page must be at least 1"

def sizeOutOfRange : Failure := badRequest "size must be between 1 and 100"

def missingUser : Failure := unauthorized "Missing user id"

def invalidUser : Failure := unauthorized "Invalid user id"

def quotaSpent : Failure := tooManyRequests "Too many requests! Rate Limit Exceeded!"

/-- What a deletion answers once the writer of the cache has stopped. -/
def writerStopped : Failure := internal "cache writer stopped"

/-- What a deletion would answer if it were accepted and never replied to. -/
def deletionDropped : Failure := internal "cache writer dropped a delete"

end Failure

end MangaRecommender
