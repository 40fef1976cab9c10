import MangaRecommender.Text.Hexadecimal

/-!
# Percent-encoded text

A percent sign with two hexadecimal digits stands for a byte; a percent sign without them stands
for itself. Where only ASCII can be of use, the text is decoded character by character, and a byte
of any other character to the replacement character, which no name and no number holds. Where the
text may be any, its bytes are decoded, and have to be UTF-8.
-/

namespace MangaRecommender.Text

def characterOfByte (byte : Nat) : Char :=
  if byte < 0x80 then Char.ofNat byte else '\ufffd'

def percentDecode : List Char → List Char
  | '%' :: high :: low :: rest =>
    match hexValue? high, hexValue? low with
    | some high, some low => characterOfByte (16 * high + low) :: percentDecode rest
    | _, _ => '%' :: percentDecode (high :: low :: rest)
  | character :: rest => character :: percentDecode rest
  | [] => []
  termination_by text => text.length

/-- The bytes that an encoded text stands for. -/
def percentBytes : List Char → List UInt8
  | '%' :: high :: low :: rest =>
    match hexValue? high, hexValue? low with
    | some high, some low => UInt8.ofNat (16 * high + low) :: percentBytes rest
    | _, _ => 0x25 :: percentBytes (high :: low :: rest)
  | character :: rest => String.utf8EncodeChar character ++ percentBytes rest
  | [] => []
  termination_by text => text.length

/-- The text that an encoded text stands for, if its bytes are one. -/
def percentText? (text : List Char) : Option String :=
  String.fromUTF8? ⟨(percentBytes text).toArray⟩

/-- Decodes a name or value of a form, in which a plus sign stands for a blank. -/
def formDecode (text : List Char) : List Char :=
  percentDecode (text.map fun character => if character = '+' then ' ' else character)

/-- Cuts a text at every separator. -/
def splitAt (separator : Char) : List Char → List (List Char)
  | [] => [[]]
  | character :: rest =>
    if character = separator then [] :: splitAt separator rest
    else match splitAt separator rest with
      | [] => [[character]]
      | piece :: pieces => (character :: piece) :: pieces

/-- The names and values of a form, in their order; empty pieces are none. -/
def formPairs (query : List Char) : List (List Char × List Char) :=
  ((splitAt '&' query).filter fun piece => !piece.isEmpty).map fun piece =>
    (formDecode (piece.takeWhile (· != '=')), formDecode ((piece.dropWhile (· != '=')).drop 1))

end MangaRecommender.Text
