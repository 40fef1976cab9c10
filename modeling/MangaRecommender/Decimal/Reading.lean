import MangaRecommender.Binary64.Rounding
import MangaRecommender.Decimal.Shortest

/-!
# The double nearest to a decimal

A decimal is rounded once, from its exact value. An exponent far outside the range of doubles
decides the result by itself, so that no power of ten larger than the range needs is computed.
-/

namespace MangaRecommender.Decimal

open Binary64 (nearest unitsPerOne)

/-- An exponent of ten that no double reaches. -/
def outOfRange : Nat := 400

/-- The double nearest to a decimal with the given sign, infinite past the largest one. -/
def toBinary64 (negative : Bool) (value : Decimal) : Binary64 :=
  if value.digits = 0 then Binary64.signedZero negative
  else if (outOfRange : Int) < value.exponent then Binary64.infinity negative
  else if value.exponent < -(value.digits.log2 + outOfRange : Nat) then
    Binary64.signedZero negative
  else
    nearest negative (value.digits * Nat.pow 10 value.exponent.toNat * unitsPerOne)
      (Nat.pow 10 (-value.exponent).toNat)

end MangaRecommender.Decimal
