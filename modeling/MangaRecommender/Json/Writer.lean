import MangaRecommender.Decimal.Notation
import MangaRecommender.Text.Hexadecimal

/-!
# Writing JSON

Compact text without blanks. Inside a string the quote, the backslash and the control characters
below the blank are escaped, the five common ones by a letter; every other character stands for
itself. A double that is not finite has no number and is written as null.
-/

namespace MangaRecommender.Json

def escaped (character : Char) : List Char :=
  match character with
  | '"' => ['\\', '"']
  | '\\' => ['\\', '\\']
  | '\x08' => ['\\', 'b']
  | '\x09' => ['\\', 't']
  | '\x0a' => ['\\', 'n']
  | '\x0c' => ['\\', 'f']
  | '\x0d' => ['\\', 'r']
  | _ =>
    if character.toNat < 0x20 then '\\' :: 'u' :: Text.hexDigits 4 character.toNat
    else [character]

def quoted (text : List Char) : List Char := '"' :: (text.flatMap escaped ++ ['"'])

def null : List Char := ['n', 'u', 'l', 'l']

def boolean (value : Bool) : List Char :=
  if value then ['t', 'r', 'u', 'e'] else ['f', 'a', 'l', 's', 'e']

def double (value : Binary64) : List Char :=
  if value.isFinite then Decimal.ofFinite value else null

/-- An optional value, null where it is absent. -/
def optional {Value : Type} (write : Value → List Char) : Option Value → List Char
  | none => null
  | some value => write value

/-- Texts with commas between them. -/
def separated : List (List Char) → List Char
  | [] => []
  | [item] => item
  | item :: more => item ++ ',' :: separated more

def array (items : List (List Char)) : List Char := '[' :: (separated items ++ [']'])

def objectMember (item : String × List Char) : List Char := quoted item.1.toList ++ ':' :: item.2

def object (members : List (String × List Char)) : List Char :=
  '\x7b' :: (separated (members.map objectMember) ++ ['\x7d'])

end MangaRecommender.Json
