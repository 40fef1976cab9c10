import MangaRecommender.Text.Integer

/-!
# Calendar dates

A date is a day of the proleptic Gregorian calendar. It is written with a year of at least four
digits, which carries a sign when it is negative or longer; it is read with blanks allowed around
the numbers, and only when the day exists.
-/

namespace MangaRecommender

namespace CalendarDate

def isLeapYear (year : Int) : Bool :=
  year % 4 == 0 && (year % 100 != 0 || year % 400 == 0)

def daysInMonth (year : Int) (month : Nat) : Nat :=
  match month with
  | 1 | 3 | 5 | 7 | 8 | 10 | 12 => 31
  | 4 | 6 | 9 | 11 => 30
  | 2 => if isLeapYear year then 29 else 28
  | _ => 0

def earliestYear : Int := -262143

def latestYear : Int := 262142

/-- A day that exists, in a year of the supported range. -/
def IsDay (year : Int) (month day : Nat) : Prop :=
  earliestYear ≤ year ∧ year ≤ latestYear ∧ 1 ≤ day ∧ day ≤ daysInMonth year month

instance (year : Int) (month day : Nat) : Decidable (IsDay year month day) := by
  unfold IsDay; infer_instance

end CalendarDate

structure CalendarDate where
  year : Int
  month : Nat
  day : Nat
  isDay : CalendarDate.IsDay year month day
  deriving DecidableEq

namespace CalendarDate

def ofParts? (year : Int) (month day : Nat) : Option CalendarDate :=
  if h : IsDay year month day then some ⟨year, month, day, h⟩ else none

/-- A number in decimal with zeros in front up to a width. -/
def padded (width value : Nat) : List Char :=
  let digits := Text.decimal value
  List.replicate (width - digits.length) '0' ++ digits

def text (date : CalendarDate) : List Char :=
  let year := padded 4 date.year.natAbs
  let sign := if date.year < 0 then ['-'] else if 9999 < date.year then ['+'] else []
  sign ++ year ++ '-' :: padded 2 date.month ++ '-' :: padded 2 date.day

/-- The white space of text in any script. -/
def isBlank (character : Char) : Bool :=
  let codePoint := character.toNat
  (0x09 ≤ codePoint && codePoint ≤ 0x0D) || (0x2000 ≤ codePoint && codePoint ≤ 0x200A) ||
    [0x20, 0x85, 0xA0, 0x1680, 0x2028, 0x2029, 0x202F, 0x205F, 0x3000].contains codePoint

/-- Reads at least one and at most `most` digits behind blanks. -/
def takeNumber (most : Nat) (text : List Char) : Option (Nat × List Char) :=
  let text := text.dropWhile isBlank
  let digits := (text.take most).takeWhile Char.isDigit
  if digits.isEmpty then none
  else some (Nat.ofDigitChars 10 digits 0, text.drop digits.length)

/-- Reads a year: four digits at most, or any number of them behind a sign. -/
def takeYear (text : List Char) : Option (Int × List Char) :=
  match text.dropWhile isBlank with
  | '-' :: rest => if rest.head?.any Char.isDigit then
      (takeNumber rest.length rest).map fun (year, rest) => (-(year : Int), rest)
    else none
  | '+' :: rest => if rest.head?.any Char.isDigit then
      (takeNumber rest.length rest).map fun (year, rest) => ((year : Int), rest)
    else none
  | rest => (takeNumber 4 rest).map fun (year, rest) => ((year : Int), rest)

def takeHyphen (text : List Char) : Option (List Char) :=
  match text.dropWhile isBlank with
  | '-' :: rest => some rest
  | _ => none

def ofText? (text : List Char) : Option CalendarDate := do
  let (year, rest) ← takeYear text
  let (month, rest) ← takeNumber 2 (← takeHyphen rest)
  let (day, rest) ← takeNumber 2 (← takeHyphen rest)
  if (rest.dropWhile isBlank).isEmpty then ofParts? year month day else none

end CalendarDate

end MangaRecommender
