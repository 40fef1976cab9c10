import MangaRecommender.Binary64.Basic

/-!
# The shortest decimal of a double

The reals that round to a double form an interval around it, which reaches halfway to either
neighbour and holds its ends when the magnitude is even. Of the decimals in that interval the one
with the fewest digits is chosen, among those the nearest to the double, and of two equally near
ones the even one. All comparisons are exact, in halves of a unit.
-/

namespace MangaRecommender

/-- The number `digits * 10 ^ exponent`. -/
structure Decimal where
  digits : Nat
  exponent : Int
  deriving DecidableEq, Repr

namespace Decimal

open Binary64 (units unitsPerOne)

/-- Whether a decimal lies in the interval that rounds to a nonzero finite magnitude. -/
def roundsTo (magnitude : Nat) (value : Decimal) : Bool :=
  let low := units (magnitude - 1) + units magnitude
  let high := units magnitude + units (magnitude + 1)
  let numerator := value.digits * Nat.pow 10 value.exponent.toNat * (2 * unitsPerOne)
  let denominator := Nat.pow 10 (-value.exponent).toNat
  if magnitude % 2 = 0 then
    decide (low * denominator ≤ numerator ∧ numerator ≤ high * denominator)
  else
    decide (low * denominator < numerator ∧ numerator < high * denominator)

/-- The zeros that follow the point of a quotient below one, as far as `fuel` allows. -/
def leadingZeros (denominator : Nat) : Nat → Nat → Nat
  | 0, _ => 0
  | fuel + 1, numerator =>
    if denominator ≤ 10 * numerator then 0 else leadingZeros denominator fuel (10 * numerator) + 1

/-- The place of the decimal point in front of the first digit of a magnitude: its value lies
between `10 ^ (place - 1)` and `10 ^ place`. -/
def pointPlace (magnitude : Nat) : Int :=
  let whole := units magnitude / unitsPerOne
  if whole = 0 then -(leadingZeros unitsPerOne 324 (units magnitude) : Int)
  else ((Nat.toDigits 10 whole).length : Int)

/-- The neighbour on the grid of `10 ^ exponent` that rounds to the magnitude, if one does. -/
def onGrid (magnitude : Nat) (exponent : Int) : Option Decimal :=
  let numerator := units magnitude * Nat.pow 10 (-exponent).toNat
  let denominator := unitsPerOne * Nat.pow 10 exponent.toNat
  let below : Decimal := ⟨numerator / denominator, exponent⟩
  let above : Decimal := ⟨numerator / denominator + 1, exponent⟩
  match roundsTo magnitude below, roundsTo magnitude above with
  | false, false => none
  | true, false => some below
  | false, true => some above
  | true, true =>
    let twice := 2 * (numerator % denominator)
    if twice < denominator then some below
    else if denominator < twice then some above
    else if below.digits % 2 = 0 then some below else some above

/-- Drops trailing zeros of the digits, as far as `fuel` allows. -/
def trimZeros : Nat → Decimal → Decimal
  | 0, value => value
  | fuel + 1, value =>
    if value.digits % 10 = 0 then trimZeros fuel ⟨value.digits / 10, value.exponent + 1⟩ else value

/-- The shortest decimal that rounds to a nonzero finite magnitude; seventeen digits always do. -/
def shortest (magnitude : Nat) : Decimal :=
  let place := pointPlace magnitude
  let found := (List.range 17).findSome? fun count => onGrid magnitude (place - (count + 1 : Nat))
  trimZeros 17 (found.getD ⟨units magnitude, 0⟩)

end Decimal

end MangaRecommender
