import MangaRecommender.Binary64.Basic

/-!
# Rounding a quotient of units to a double

A quotient of two naturals is rounded to the nearest whole number, a half going to the even
neighbour. A quotient of units below `2 ^ 53` is rounded as it stands; above, it is first scaled
down to 53 bits. Since a magnitude past the last significand of a binade is the first of the
next, the carry of a rounding lands on the right double by itself.
-/

namespace MangaRecommender

/-- The whole number nearest to `numerator / denominator`, a half going to the even one. -/
def roundHalfEven (numerator denominator : Nat) : Nat :=
  let quotient := numerator / denominator
  let twice := 2 * (numerator % denominator)
  if twice < denominator then quotient
  else if denominator < twice then quotient + 1
  else if quotient % 2 = 0 then quotient else quotient + 1

namespace Binary64

/-- The magnitude nearest to a quotient of units, that of infinity past the largest double. -/
def nearestMagnitude (numerator denominator : Nat) : Nat :=
  let shift := (numerator / denominator).log2 - 52
  min infinityMagnitude (shift * 2 ^ 52 + roundHalfEven numerator (denominator <<< shift))

theorem nearestMagnitude_le (numerator denominator : Nat) :
    nearestMagnitude numerator denominator ≤ infinityMagnitude :=
  Nat.min_le_left _ _

/-- The double nearest to a quotient of units, with the given sign. -/
def nearest (negative : Bool) (numerator denominator : Nat) : Binary64 :=
  ⟨negative, nearestMagnitude numerator denominator,
    Nat.lt_of_le_of_lt (nearestMagnitude_le numerator denominator) infinityMagnitude_lt⟩

/-- The double nearest to a fraction. -/
def ofFraction (numerator : Int) (denominator : Nat) : Binary64 :=
  nearest (decide (numerator < 0)) (numerator.natAbs * unitsPerOne) denominator

def ofNat (value : Nat) : Binary64 := ofFraction value 1

def ofInt (value : Int) : Binary64 := ofFraction value 1

end Binary64

end MangaRecommender
