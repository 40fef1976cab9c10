/-!
# Doubles by sign and magnitude

A double is held as its sign bit and the remaining 63 bits read as one number, its magnitude. The
magnitudes are ordered as the absolute values they stand for, so that neighbours, rounding and
the total order are arithmetic on natural numbers. A finite magnitude stands for a whole number
of units of `2 ^ -1074`, the smallest positive double; every operation computes with units
exactly and rounds once.
-/

-- A power of naturals is that of `Nat`, also where a monoid brings powers of its own.
attribute [default_instance 20000] instPowNat

namespace MangaRecommender

/-- A value of the IEEE 754 binary64 format. -/
structure Binary64 where
  negative : Bool
  magnitude : Nat
  magnitude_lt : magnitude < 2 ^ 63
  deriving DecidableEq

namespace Binary64

/-- The number of units in one. -/
def unitsPerOne : Nat := 2 ^ 1074

/-- The magnitude of the infinities; a larger one is not a number. -/
def infinityMagnitude : Nat := 2047 * 2 ^ 52

theorem infinityMagnitude_lt : infinityMagnitude < 2 ^ 63 := by decide

/-- The units that a magnitude stands for: a significand of 53 bits, shifted by the exponent
field, whose values zero and one share their unit. -/
def units (magnitude : Nat) : Nat :=
  if magnitude / 2 ^ 52 = 0 then magnitude
  else (2 ^ 52 + magnitude % 2 ^ 52) <<< (magnitude / 2 ^ 52 - 1)

def isNaN (value : Binary64) : Bool := decide (infinityMagnitude < value.magnitude)

def isInfinite (value : Binary64) : Bool := decide (value.magnitude = infinityMagnitude)

def isFinite (value : Binary64) : Bool := decide (value.magnitude < infinityMagnitude)

def isZero (value : Binary64) : Bool := decide (value.magnitude = 0)

/-- The signed units of a finite double. -/
def scaled (value : Binary64) : Int :=
  if value.negative then -(units value.magnitude : Int) else (units value.magnitude : Int)

def signedZero (negative : Bool) : Binary64 := ⟨negative, 0, by decide⟩

def infinity (negative : Bool) : Binary64 := ⟨negative, infinityMagnitude, infinityMagnitude_lt⟩

/-- The positive quiet NaN, which every invalid operation answers. -/
def nan : Binary64 := ⟨false, infinityMagnitude + 2 ^ 51, by decide⟩

/-- All sixty-four bits as a number, the sign uppermost. -/
def bits (value : Binary64) : Nat :=
  (if value.negative then 2 ^ 63 else 0) + value.magnitude

end Binary64

end MangaRecommender
