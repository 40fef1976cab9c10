import MangaRecommender.Decimal.Shortest
import MangaRecommender.Text.Integer

/-!
# The text of a finite double

A double is written with the digits of its shortest decimal: positionally while at most four zeros
follow the point and at most sixteen digits precede it, and otherwise with one digit before the
point and a signed exponent. A whole number in positional notation keeps one zero behind the
point, so that the text is never that of an integer.
-/

namespace MangaRecommender.Decimal

open Text (decimal signedDecimal)

/-- The largest number of digits before the point in positional notation. -/
def positionalLimit : Int := 16

/-- The place of the point at which positional notation, with its zeros in front, has ended. -/
def positionalStart : Int := -5

/-- The exponent behind its letter, always with a sign. -/
def exponentPart (exponent : Int) : List Char :=
  if exponent < 0 then 'e' :: signedDecimal exponent else 'e' :: '+' :: signedDecimal exponent

def layout (value : Decimal) : List Char :=
  let digits := decimal value.digits
  let place := value.exponent + (digits.length : Int)
  if 0 ≤ value.exponent ∧ place ≤ positionalLimit then
    digits ++ List.replicate value.exponent.toNat '0' ++ ['.', '0']
  else if 0 < place ∧ place ≤ positionalLimit then
    digits.take place.toNat ++ '.' :: digits.drop place.toNat
  else if positionalStart < place ∧ place ≤ 0 then
    '0' :: '.' :: (List.replicate (-place).toNat '0' ++ digits)
  else
    match digits with
    | [] => []
    | [digit] => digit :: exponentPart (place - 1)
    | digit :: more => digit :: '.' :: (more ++ exponentPart (place - 1))

/-- The text of a finite double. -/
def ofFinite (value : Binary64) : List Char :=
  let body := if value.isZero then ['0', '.', '0'] else layout (shortest value.magnitude)
  if value.negative then '-' :: body else body

end MangaRecommender.Decimal
