/-!
# Whole numbers in decimal

A natural number is written without leading zeros. Reading is bounded by a range and allows leading
zeros and a sign; a character that is no digit and a number that leaves the range are
told apart by whichever comes first from the left.
-/

namespace MangaRecommender.Text

def decimal (value : Nat) : List Char := Nat.toDigits 10 value

def signedDecimal (value : Int) : List Char :=
  if value < 0 then '-' :: decimal value.natAbs else decimal value.natAbs

/-- Why a text is not a number of the wanted range. -/
inductive IntegerFault
  | empty
  | invalidDigit
  | tooLarge
  | tooSmall
  deriving DecidableEq, Repr

/-- The numbers from `-below` to `above`; only where `signed` may a text start with a minus. -/
structure IntegerRange where
  signed : Bool
  below : Nat
  above : Nat

def unsigned16 : IntegerRange := ⟨false, 0, 2 ^ 16 - 1⟩

def unsigned32 : IntegerRange := ⟨false, 0, 2 ^ 32 - 1⟩

def unsigned64 : IntegerRange := ⟨false, 0, 2 ^ 64 - 1⟩

def signed32 : IntegerRange := ⟨true, 2 ^ 31, 2 ^ 31 - 1⟩

def signed64 : IntegerRange := ⟨true, 2 ^ 63, 2 ^ 63 - 1⟩

/-- Reads digits on top of `value`; `beyond` is the fault of passing `limit`. -/
def readDigits (limit : Nat) (beyond : IntegerFault) (value : Nat) :
    List Char → Except IntegerFault Nat
  | [] => .ok value
  | character :: rest =>
    if character.isDigit then
      let next := 10 * value + (character.toNat - '0'.toNat)
      if next ≤ limit then readDigits limit beyond next rest else .error beyond
    else .error .invalidDigit

def readInteger (range : IntegerRange) : List Char → Except IntegerFault Int
  | [] => .error .empty
  | ['+'] | ['-'] => .error .invalidDigit
  | '+' :: digits => (readDigits range.above .tooLarge 0 digits).map fun value => (value : Int)
  | '-' :: digits =>
    if range.signed then (readDigits range.below .tooSmall 0 digits).map fun value => -(value : Int)
    else .error .invalidDigit
  | digits => (readDigits range.above .tooLarge 0 digits).map fun value => (value : Int)

end MangaRecommender.Text
