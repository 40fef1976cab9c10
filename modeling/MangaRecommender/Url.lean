import MangaRecommender.IpAddress

/-!
# Addresses of servers

An address has a scheme and behind it a path. Between them may stand, behind two slashes, a host
with a user, a password and a port; a query and a fragment may follow. Blanks and control
characters around an address do not count, nor do tabs and line breaks in it. The segments of a
path that stay where they are or go up are resolved in reading.
-/

namespace MangaRecommender

/-- The parts of an address, still encoded; a part that is left out is empty. -/
structure Url where
  scheme : List Char
  user : List Char
  password : List Char
  host : List Char
  port : Option Nat
  path : List Char
  query : List Char
  deriving DecidableEq, Repr

namespace Url

/-- The characters of an address that count. -/
def trimmed (text : List Char) : List Char :=
  let isPadding (character : Char) : Bool := character.toNat ≤ 0x20
  let trimFront (text : List Char) : List Char := text.dropWhile isPadding
  (trimFront (trimFront text).reverse).reverse.filter fun character =>
    !"\t\n\r".toList.contains character

/-- The scheme, which is read in any case and starts with a letter, and the text behind its
colon. -/
def splitScheme? (text : List Char) : Option (List Char × List Char) :=
  let isPart (character : Char) : Bool :=
    character.isAlphanum || ['+', '-', '.'].contains character
  match text.span isPart with
  | (first :: more, ':' :: rest) =>
    if first.isAlpha then some ((first :: more).map Char.toLower, rest) else none
  | _ => none

/-! ## Paths -/

/-- A segment whose encoded points are written out. -/
def withPoints : List Char → List Char
  | '%' :: '2' :: 'e' :: rest | '%' :: '2' :: 'E' :: rest => '.' :: withPoints rest
  | character :: rest => character :: withPoints rest
  | [] => []

/-- The letter of a drive, which nothing goes up from. -/
def isDrive : List Char → Bool
  | [letter, mark] | letter :: mark :: '\\' :: _ =>
    letter.isAlpha && (mark == ':' || mark == '|')
  | _ => false

/-- The segments above others, of which the last stands in front. -/
def above : List (List Char) → List (List Char)
  | [] => []
  | segment :: outer => if isDrive segment then segment :: outer else outer

/-- Resolves the segments of a path; `kept` are those in front of them, the last one first. A path
that ends with a segment that stays or goes up ends with a slash. -/
def resolve (kept : List (List Char)) : List (List Char) → List (List Char)
  | [] => kept.reverse
  | segment :: rest =>
    let enter (kept : List (List Char)) := if rest.isEmpty then [] :: kept else kept
    match withPoints segment with
    | ['.'] => resolve (enter kept) rest
    | ['.', '.'] => resolve (enter (above kept)) rest
    | _ => resolve (segment :: kept) rest

/-- A path behind a host, which starts with a slash unless it is empty. -/
def resolvedPath (text : List Char) : List Char :=
  let join (text : List Char) : List Char :=
    (resolve [] (Text.splitAt '/' text)).flatMap fun segment => '/' :: segment
  match text with
  | [] => []
  | '/' :: rest => join rest
  | _ => join text

/-! ## Hosts -/

/-- A port, which may be left out behind its colon, and the text behind it. Only a backslash, which
begins the path, ends a port early. -/
def splitPort? (text : List Char) : Option (Option Nat × List Char) :=
  let (digits, rest) := text.span Char.isDigit
  let value := Nat.ofDigitChars 10 digits 0
  let endsHere := match rest with
    | [] | '\\' :: _ => true
    | _ => false
  if endsHere && value < 2 ^ 16 then some (if digits.isEmpty then none else some value, rest)
  else none

def isHostCharacter (character : Char) : Bool :=
  !("\x00\t\n\r #/:<>?@[\\]^|".toList.contains character)

/-- The host, and the text behind it; only a host in brackets may hold colons. -/
def splitHost? (text : List Char) : Option (List Char × List Char) :=
  match text with
  | '[' :: rest =>
    match rest.span (· != ']') with
    | (inner, ']' :: rest) => if (IpAddress.v6? inner).isSome then some (inner, rest) else none
    | _ => none
  | _ =>
    let (host, rest) := text.span (· != ':')
    if host.all isHostCharacter then some (host, rest) else none

/-- The texts before and behind the last at sign. -/
def splitUser (authority : List Char) : List Char × List Char :=
  let place := (authority.reverse.takeWhile (· != '@')).reverse
  (authority.take (authority.length - place.length - 1), place)

/-- Reads an authority onto an address whose path stands behind it. Without a host there can be no
port and no user, but a colon and an at sign alone are no user. -/
def withAuthority? (url : Url) (authority : List Char) : Option Url := do
  let (credentials, place) := splitUser authority
  let (host, rest) ← splitHost? place
  let (port, rest) ← match rest with
    | [] => some (none, [])
    | ':' :: rest => splitPort? rest
    | _ => none
  if host.isEmpty && !(authority.isEmpty || authority == [':', '@']) then none
  else
    let (user, password) := credentials.span (· != ':')
    let path := resolvedPath (rest ++ url.path)
    return { url with user, password := password.drop 1, host, port, path }

/-- Reads an address. A path behind a scheme is resolved if it starts with a slash. -/
def ofText? (text : List Char) : Option Url := do
  let (scheme, rest) ← splitScheme? (trimmed text)
  let (body, tail) := rest.span fun character => character != '?' && character != '#'
  let query := match tail with
    | '?' :: query => query.takeWhile (· != '#')
    | _ => []
  let url (path : List Char) : Url := ⟨scheme, [], [], [], none, path, query⟩
  match body with
  | '/' :: '/' :: rest =>
    let (authority, path) := rest.span (· != '/')
    (url path).withAuthority? authority
  | '/' :: _ => some (url (resolvedPath body))
  | path => some (url path)

/-- The value that a query gives to a name; the last one counts. -/
def parameter? (url : Url) (name : String) : Option (List Char) :=
  (Text.formPairs url.query).reverse.lookup name.toList

end Url

end MangaRecommender
