import MangaRecommender.Json.Skipping

/-!
# Reading records

A record is given as an object, with its fields in any order and unknown ones ignored, or as an
array of its fields in their own order. A field that comes twice and a missing field that has no
value to fall back on make the object unfit; the missing ones are noticed at the closing brace.
Elements behind the last field of an array make it malformed.
-/

namespace MangaRecommender.Json

/-- A field of a record that is being read into a draft. -/
structure Field (Draft : Type) where
  name : String
  isSet : Draft → Bool
  read : Draft → Reader Draft
  /-- Whether an array may end before this field. -/
  hasDefault : Bool

/-- The fields of a record, an empty draft, and the record of a draft that lacks none. -/
structure Record (Draft Value : Type) where
  fields : List (Field Draft)
  blank : Draft
  finish : Draft → Option Value

variable {Draft Value : Type}

/-- A field that holds one value of the draft. -/
def field {Part : Type} (name : String) (read : Reader Part) (get : Draft → Option Part)
    (set : Draft → Part → Draft) (hasDefault : Bool) : Field Draft :=
  ⟨name, fun draft => (get draft).isSome,
    fun draft text => (read text).map fun (part, rest) => (set draft part, rest), hasDefault⟩

/-- Reads the value behind a name that has been read. -/
def readMember (fields : List (Field Draft)) (draft : Draft) (name text : List Char) :
    Except Fault (Draft × List Char) :=
  match fields.find? fun field => field.name.toList = name with
  | some field =>
    if field.isSet draft then .error .unfit
    else do field.read draft (← skipColon text)
  | none => do return (draft, ← skipValue (← skipColon text))

/-- Reads the members of an object up to its brace; `fuel` bounds their number. -/
def readMembers (fields : List (Field Draft)) :
    Nat → Bool → Draft → List Char → Except Fault (Draft × List Char)
  | 0, _, _, _ => .error .malformed
  | fuel + 1, first, draft, text =>
    match skipBlanks text with
    | '\x7d' :: rest => .ok (draft, rest)
    | text => do
      match ← nextItem first text with
      | '"' :: rest => do
        let (name, rest) ← readStringRest rest
        let (draft, rest) ← readMember fields draft name rest
        readMembers fields fuel false draft rest
      | _ => .error .malformed

/-- Reads the fields of a record in array form up to its bracket. -/
def readTuple : List (Field Draft) → Bool → Draft → List Char → Except Fault (Draft × List Char)
  | [], _, draft, text =>
    match skipBlanks text with
    | ']' :: rest => .ok (draft, rest)
    | _ => .error .malformed
  | field :: more, first, draft, text =>
    match skipBlanks text with
    | ']' :: rest =>
      if field.hasDefault then readTuple more first draft (']' :: rest) else .error .unfit
    | text => do
      let (draft, rest) ← field.read draft (← nextItem first text)
      readTuple more false draft rest

def Record.read (record : Record Draft Value) : Reader Value := fun text => do
  let (draft, rest) ← match skipBlanks text with
    | '\x7b' :: rest => readMembers record.fields (rest.length + 1) true record.blank rest
    | '[' :: rest => readTuple record.fields true record.blank rest
    | other => .error (faultOfOther other)
  match record.finish draft with
  | some value => .ok (value, rest)
  | none => .error .unfit

end MangaRecommender.Json
