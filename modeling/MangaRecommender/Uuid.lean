import MangaRecommender.Text.Hexadecimal

/-!
# Universally unique identifiers

An identifier of 128 bits is written as 32 lowercase hexadecimal digits in five groups with
hyphens between them. It is read in either case from four spellings: the digits alone, the
hyphenated form, that form in braces, and that form behind the name of its urn.
-/

namespace MangaRecommender

structure Uuid where
  value : Nat
  value_lt : value < 2 ^ 128
  deriving DecidableEq

namespace Uuid

def groupSizes : List Nat := [8, 4, 4, 4, 12]

/-- Cuts digits into groups and puts hyphens between them. -/
def hyphenate : List Nat → List Char → List Char
  | [], digits | [_], digits => digits
  | size :: more, digits => digits.take size ++ '-' :: hyphenate more (digits.drop size)

/-- The digits of hyphenated groups of the given sizes. -/
def joinGroups : List Nat → List Char → Option (List Char)
  | [], text => if text.isEmpty then some [] else none
  | [size], text => if text.length = size then some text else none
  | size :: more, text =>
    if (text.drop size).head? = some '-' then
      (joinGroups more (text.drop (size + 1))).map (text.take size ++ ·)
    else none

def text (identifier : Uuid) : List Char :=
  hyphenate groupSizes (Text.hexDigits 32 identifier.value)

def ofDigits? (digits : List Char) : Option Uuid :=
  if digits.length = 32 then
    (Text.readHex 0 digits).bind fun value =>
      if h : value < 2 ^ 128 then some ⟨value, h⟩ else none
  else none

def ofHyphenated? (text : List Char) : Option Uuid :=
  (joinGroups groupSizes text).bind ofDigits?

def urnName : List Char := "urn:uuid:".toList

def ofText? (text : List Char) : Option Uuid :=
  match text with
  | '{' :: rest =>
    if rest.getLast? = some '}' then ofHyphenated? rest.dropLast else none
  | _ =>
    if (text.take urnName.length).map Char.toLower = urnName then
      ofHyphenated? (text.drop urnName.length)
    else (ofDigits? text).or (ofHyphenated? text)

end Uuid

end MangaRecommender
