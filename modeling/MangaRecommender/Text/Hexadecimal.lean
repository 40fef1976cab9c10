/-!
# Hexadecimal digits

Digits are written in lower case and read in either case.
-/

namespace MangaRecommender.Text

/-- The lowercase digit of a number below sixteen. -/
def hexDigit (value : Nat) : Char := value.digitChar

def hexValue? (character : Char) : Option Nat :=
  if character.isDigit then some (character.toNat - '0'.toNat)
  else if 'a' ≤ character ∧ character ≤ 'f' then some (character.toNat - 'a'.toNat + 10)
  else if 'A' ≤ character ∧ character ≤ 'F' then some (character.toNat - 'A'.toNat + 10)
  else none

/-- The last `count` hexadecimal digits of a number. -/
def hexDigits : Nat → Nat → List Char
  | 0, _ => []
  | count + 1, value => hexDigits count (value / 16) ++ [hexDigit (value % 16)]

/-- Reads hexadecimal digits behind those that gave `value`. -/
def readHex (value : Nat) : List Char → Option Nat
  | [] => some value
  | character :: rest => do readHex (16 * value + (← hexValue? character)) rest

end MangaRecommender.Text
