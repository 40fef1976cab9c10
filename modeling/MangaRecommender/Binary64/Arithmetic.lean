import MangaRecommender.Binary64.Rounding

/-!
# Arithmetic of doubles

Each operation is its exact result, rounded once to the nearest double with ties to even; the
special values follow the standard's table. A sum that cancels is the positive zero unless both
operands are negative.
-/

namespace MangaRecommender.Binary64

/-- The double nearest to a signed number of units; a vanishing one takes the given sign. -/
def ofScaled (zeroNegative : Bool) (value : Int) : Binary64 :=
  if value = 0 then signedZero zeroNegative
  else nearest (decide (value < 0)) value.natAbs 1

def add (left right : Binary64) : Binary64 :=
  if left.isNaN || right.isNaN then nan
  else if left.isInfinite then
    if right.isInfinite && left.negative != right.negative then nan else left
  else if right.isInfinite then right
  else ofScaled (left.negative && right.negative) (left.scaled + right.scaled)

def neg (value : Binary64) : Binary64 := { value with negative := !value.negative }

def abs (value : Binary64) : Binary64 := { value with negative := false }

def sub (left right : Binary64) : Binary64 := add left (neg right)

def mul (left right : Binary64) : Binary64 :=
  let negative := left.negative != right.negative
  if left.isNaN || right.isNaN then nan
  else if left.isInfinite || right.isInfinite then
    if left.isZero || right.isZero then nan else infinity negative
  else nearest negative (units left.magnitude * units right.magnitude) unitsPerOne

def div (left right : Binary64) : Binary64 :=
  let negative := left.negative != right.negative
  if left.isNaN || right.isNaN then nan
  else if left.isInfinite then
    if right.isInfinite then nan else infinity negative
  else if right.isInfinite then signedZero negative
  else if right.isZero then
    if left.isZero then nan else infinity negative
  else nearest negative (units left.magnitude * unitsPerOne) (units right.magnitude)

instance : Add Binary64 := ⟨add⟩
instance : Sub Binary64 := ⟨sub⟩
instance : Mul Binary64 := ⟨mul⟩
instance : Div Binary64 := ⟨div⟩
instance : Neg Binary64 := ⟨neg⟩

/-- The whole number of a finite double, a half going to the even neighbour. -/
def roundToWhole (value : Binary64) : Nat :=
  roundHalfEven (units value.magnitude) unitsPerOne

/-- The nearest integral double, a half going to the even neighbour and the sign kept. -/
def roundHalvesToEven (value : Binary64) : Binary64 :=
  if value.isFinite then nearest value.negative (value.roundToWhole * unitsPerOne) 1 else value

/-- The nearest integer of a finite double, a half going to the even neighbour. -/
def toNearestInt (value : Binary64) : Int :=
  if value.negative then -(value.roundToWhole : Int) else (value.roundToWhole : Int)

/-- The value where it is positive, and zero where it is negative or not a number. -/
def positivePart (value : Binary64) : Binary64 :=
  if value.isNaN || value.negative then signedZero false else value

end MangaRecommender.Binary64
