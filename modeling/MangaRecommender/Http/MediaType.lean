import MangaRecommender.Http.Token

/-!
# The media type of a body

A body is read as JSON if its type is `application` with the subtype `json` or the suffix `json`,
in any case. The whole text has to be a media type: names of token characters, and parameters with
an equals sign between name and value. A quoted value has at least one character, which may be
a quote itself.
-/

namespace MangaRecommender.Http.MediaType

/-- Whether the parameters behind a semicolon are well formed; `fuel` bounds their number. -/
def hasParameters : Nat → List Char → Bool
  | 0, _ => false
  | fuel + 1, text =>
    let text := text.dropWhile (· == ' ')
    let name := text.takeWhile fun character => isTokenCharacter character && character != '='
    match text.drop name.length with
    | [] => text.isEmpty
    | '=' :: '"' :: first :: rest =>
      !name.isEmpty && (first :: rest.takeWhile (· != '"')).all isQuotable &&
        match (rest.dropWhile (· != '"')) with
        | [] => false
        | _ :: rest =>
          match rest.dropWhile (· == ' ') with
          | [] => true
          | ';' :: rest => hasParameters fuel rest
          | _ => false
    | '=' :: '"' :: [] => false
    | '=' :: rest =>
      !name.isEmpty &&
        match rest.dropWhile isTokenCharacter with
        | [] => true
        | ';' :: more => !(rest.takeWhile isTokenCharacter).isEmpty && hasParameters fuel more
        | _ => false
    | _ => false
where
  isQuotable (character : Char) : Bool := 0x20 ≤ character.toNat && character.toNat ≤ 0x7e

/-- Type and subtype of a text that is a media type. -/
def parts? (text : List Char) : Option (List Char × List Char) :=
  let type := text.takeWhile isTokenCharacter
  match text.drop type.length with
  | '/' :: rest =>
    let subtype := rest.takeWhile isTokenCharacter
    match rest.drop subtype.length with
    | [] => if type.isEmpty then none else some (type, subtype)
    | ';' :: parameters =>
      if type.isEmpty || subtype.isEmpty || !hasParameters (parameters.length + 1) parameters then
        none
      else some (type, subtype)
    | _ => none
  | _ => none

/-- The parts of a subtype before and behind its last plus sign, which may not be its first
character. -/
def splitSuffix (subtype : List Char) : List Char × Option (List Char) :=
  let suffix := (subtype.reverse.takeWhile (· != '+')).reverse
  let front := subtype.take (subtype.length - suffix.length - 1)
  if suffix.length = subtype.length ∨ front.isEmpty then (subtype, none) else (front, some suffix)

def isJson (text : String) : Bool :=
  match parts? (text.toList.map Char.toLower) with
  | none => false
  | some (type, subtype) =>
    let (front, suffix) := splitSuffix subtype
    type == "application".toList &&
      (front == "json".toList || suffix == some "json".toList)

end MangaRecommender.Http.MediaType
