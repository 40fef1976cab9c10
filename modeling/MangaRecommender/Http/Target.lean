/-!
# Targets of requests

A target is a path with perhaps a query, alone or behind a scheme and an authority; an authority
alone, which has no path; or an asterisk. A fragment at its end does not count. A text with a
character out of place is no target.
-/

namespace MangaRecommender.Http

/-- The path and the query of a request, still encoded. -/
structure Target where
  path : List Char
  query : List Char
  deriving DecidableEq, Repr

namespace Target

/-- The most bytes that a target may have. -/
def maxSize : Nat := 65534

def maxSchemeLength : Nat := 64

/-! ## Authorities -/

/-- What an authority has shown: its brackets, and behind the user and the brackets the number of
colons and whether there is a percent sign. -/
structure Survey where
  colons : Nat
  percent : Bool
  opened : Bool
  closed : Bool

/-- An address in brackets has at most eight colons with the one of a port. -/
def maxColons : Nat := 8

def isAuthorityCharacter (character : Char) : Bool :=
  character.isAlphanum || "!$&'()*+,-.;=_~".toList.contains character

def Survey.add (survey : Survey) (character : Char) : Option Survey :=
  match character with
  | ':' =>
    if survey.colons < maxColons then some { survey with colons := survey.colons + 1 } else none
  | '[' => if survey.percent || survey.opened then none else some { survey with opened := true }
  | ']' =>
    if !survey.opened || survey.closed then none
    else some { survey with colons := 0, percent := false, closed := true }
  | '@' => some { survey with colons := 0, percent := false }
  | '%' => some { survey with percent := true }
  | _ => if isAuthorityCharacter character then some survey else none

/-- Percent signs stand in the user or in brackets only, and one colon stands before a port. -/
def isAuthority (text : List Char) : Bool :=
  match text.foldlM Survey.add ⟨0, false, false, false⟩ with
  | none => false
  | some survey =>
    survey.opened == survey.closed && survey.colons ≤ 1 && !survey.percent &&
      text.getLast? != some '@'

/-! ## Paths and queries -/

/-- A character that is neither a blank nor a control character of ASCII. -/
def isVisible (character : Char) : Bool :=
  0x20 < character.toNat && character.toNat != 0x7f

def isPathCharacter (character : Char) : Bool :=
  isVisible character && !"#<>?\x60".toList.contains character

def isQueryCharacter (character : Char) : Bool :=
  isVisible character && !"\"#<>".toList.contains character

/-- Reads a path and a query; `root` is the path where none is given. -/
def ofPathAndQuery? (root text : List Char) : Option Target :=
  let (path, tail) := text.span fun character => character != '?' && character != '#'
  let query := match tail with
    | '?' :: query => query.takeWhile (· != '#')
    | _ => []
  if path.all isPathCharacter && query.all isQueryCharacter then
    some ⟨if path.isEmpty then root else path, query⟩
  else none

def isSchemeCharacter (character : Char) : Bool :=
  character.isAlphanum || "+-.~".toList.contains character

/-- The scheme before the first colon, and the text behind the two slashes that follow it. -/
def splitScheme? (text : List Char) : Option (List Char × List Char) :=
  match text.span isSchemeCharacter with
  | (scheme, ':' :: '/' :: '/' :: rest) => some (scheme, rest)
  | _ => none

def ofText? (text : String) : Option Target :=
  if maxSize < text.utf8ByteSize then none
  else match text.toList with
    | ['*'] => some ⟨['*'], []⟩
    | '/' :: rest => ofPathAndQuery? [] ('/' :: rest)
    | text =>
      match splitScheme? text with
      | none => if !text.isEmpty && isAuthority text then some ⟨[], []⟩ else none
      | some (scheme, rest) =>
        let (authority, rest) := rest.span fun character => !"/?#".toList.contains character
        if scheme.length ≤ maxSchemeLength && !authority.isEmpty && isAuthority authority then
          ofPathAndQuery? ['/'] rest
        else none

end Target

end MangaRecommender.Http
