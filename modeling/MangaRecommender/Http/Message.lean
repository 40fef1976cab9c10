import MangaRecommender.Failure
import MangaRecommender.Http.Target
import MangaRecommender.Http.Token
import MangaRecommender.IpAddress
import MangaRecommender.Json.Writer
import MangaRecommender.Text.Lowercase
import MangaRecommender.Uuid

/-!
# Requests and responses

The parts of an HTTP request that decide its response, and the parts of a response that a client
sees. Names of headers are compared without regard to case, and of a repeated header the first
counts.
-/

namespace MangaRecommender.Http

structure Request where
  method : String
  target : Target
  headers : List (String × String)
  body : String
  client : IpAddress

namespace Request

def header? (request : Request) (name : String) : Option String :=
  (request.headers.find? fun header => Text.lowercase header.1 = name).map Prod.snd

/-- Whether the head of a request is made of the characters that it may have. -/
def isWellFormed (request : Request) : Bool :=
  isToken request.method &&
    request.headers.all fun (name, value) => isToken name && isHeaderValue value

/-- The id that the client gave the request, if it is one. -/
def givenId? (request : Request) : Option Uuid :=
  (request.header? "x-request-id").bind fun value => Uuid.ofText? value.toList

end Request

structure Response where
  status : Nat
  contentType : Option String
  allow : Option String
  body : List Char
  deriving DecidableEq

namespace Response

def empty (status : Nat) : Response := ⟨status, none, none, []⟩

def json (status : Nat) (body : List Char) : Response :=
  ⟨status, some "application/json", none, body⟩

def plain (status : Nat) (text : String) : Response :=
  ⟨status, some "text/plain; charset=utf-8", none, text.toList⟩

end Response

end MangaRecommender.Http

namespace MangaRecommender.Failure

/-- The status of a failure. -/
def status : Failure → Nat
  | notFound _ => 404
  | badRequest _ => 400
  | unauthorized _ => 401
  | tooManyRequests _ => 429
  | database _ | cache _ | internal _ => 500

/-- The document that tells a client of a failure. -/
def document (failure : Failure) : List Char :=
  Json.object [("error", Json.quoted failure.publicMessage.toList)]

def response (failure : Failure) : Http.Response := .json failure.status failure.document

end MangaRecommender.Failure
