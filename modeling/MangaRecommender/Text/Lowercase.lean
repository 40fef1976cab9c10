import MangaRecommender.Text.Lowercase.Mapping
import MangaRecommender.Text.Lowercase.Context

/-!
# Lowercase text

Text is lowercased one character at a time, apart from the capital sigma, whose form depends on
its place in the word: after a letter and before none it takes the final form. The dotted capital
I becomes an `i` and a combining dot. Titles are compared in this form.
-/

namespace MangaRecommender.Text

namespace Lowercase

def ofCodePoint (codePoint : Nat) : Nat :=
  match runs.find? fun run => run.holds codePoint with
  | some run => ((codePoint : Int) + run.shift).toNat
  | none => codePoint

def ofChar (character : Char) : Char :=
  if character.toNat < 0x80 then character.toLower
  else Char.ofNat (ofCodePoint character.toNat)

/-- Whether the first character that casing does not skip is a letter with case. -/
def startsCased (text : List Char) : Bool :=
  match text.dropWhile isIgnorable with
  | [] => false
  | character :: _ => isCased character

/-- The lowercase form of a character between the reversed text before it and the text after. -/
def between (before : List Char) (character : Char) (after : List Char) : List Char :=
  if character = 'Σ' then
    if startsCased before && !startsCased after then ['ς'] else ['σ']
  else if character = 'İ' then ['i', '\u0307']
  else [ofChar character]

/-- Lowercases a text that continues a reversed one. -/
def continuing (before : List Char) : List Char → List Char
  | [] => []
  | character :: after =>
    between before character after ++ continuing (character :: before) after

end Lowercase

def lowercase (text : String) : String :=
  String.ofList (Lowercase.continuing [] text.toList)

end MangaRecommender.Text
