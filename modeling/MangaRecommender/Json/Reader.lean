import MangaRecommender.Decimal.Reading
import MangaRecommender.Text.Hexadecimal

/-!
# Reading JSON tokens

A reader takes a value off the front of a text and leaves the rest. It reads from left to right
and stops at the first fault: text that is no JSON is malformed, a value of another kind than the
wanted one, or outside its range, is unfit. A wrong value is unfit only if its own token is
sound.
-/

namespace MangaRecommender.Json

inductive Fault
  | malformed
  | unfit
  deriving DecidableEq, Repr

abbrev Reader (Value : Type) := List Char → Except Fault (Value × List Char)

def isBlank (character : Char) : Bool :=
  character == ' ' || character == '\t' || character == '\n' || character == '\r'

def skipBlanks (text : List Char) : List Char := text.dropWhile isBlank

/-- Takes an expected word off the text. -/
def skipWord : List Char → List Char → Except Fault (List Char)
  | [], text => .ok text
  | expected :: word, character :: rest =>
    if character = expected then skipWord word rest else .error .malformed
  | _ :: _, [] => .error .malformed

/-- A number as spelled: `digits * 10 ^ exponent`, and whether it had neither fraction nor
exponent. -/
structure Number where
  negative : Bool
  digits : Nat
  exponent : Int
  integral : Bool

def Number.toBinary64 (number : Number) : Binary64 :=
  Decimal.toBinary64 number.negative ⟨number.digits, number.exponent⟩

/-- The leading digits of a text, of which there must be one. -/
def takeDigits (text : List Char) : Except Fault (List Char × List Char) :=
  let digits := text.takeWhile Char.isDigit
  if digits.isEmpty then .error .malformed else .ok (digits, text.dropWhile Char.isDigit)

/-- The whole part of a number, with no zero in front of further digits. -/
def takeWhole (text : List Char) : Except Fault (List Char × List Char) := do
  let (digits, rest) ← takeDigits text
  if digits.head? = some '0' ∧ 1 < digits.length then .error .malformed else .ok (digits, rest)

def takeFraction : List Char → Except Fault (List Char × List Char)
  | '.' :: rest => takeDigits rest
  | rest => .ok ([], rest)

/-- The exponent behind its letter. -/
def takeSignedDigits (text : List Char) : Except Fault (Int × List Char) :=
  match text with
  | '-' :: rest => (takeDigits rest).map fun (digits, rest) =>
      (-(Nat.ofDigitChars 10 digits 0 : Int), rest)
  | '+' :: rest => (takeDigits rest).map fun (digits, rest) =>
      ((Nat.ofDigitChars 10 digits 0 : Int), rest)
  | rest => (takeDigits rest).map fun (digits, rest) =>
      ((Nat.ofDigitChars 10 digits 0 : Int), rest)

def takeExponent : List Char → Except Fault (Option Int × List Char)
  | 'e' :: rest | 'E' :: rest => (takeSignedDigits rest).map fun (value, rest) => (some value, rest)
  | rest => .ok (none, rest)

/-- Reads a number without its sign. -/
def takeUnsigned (negative : Bool) (text : List Char) : Except Fault (Number × List Char) := do
  let (whole, rest) ← takeWhole text
  let (fraction, rest) ← takeFraction rest
  let (exponent, rest) ← takeExponent rest
  .ok (⟨negative, Nat.ofDigitChars 10 (whole ++ fraction) 0,
    exponent.getD 0 - (fraction.length : Int), fraction.isEmpty && exponent.isNone⟩, rest)

def takeNumber : List Char → Except Fault (Number × List Char)
  | '-' :: rest => takeUnsigned true rest
  | rest => takeUnsigned false rest

/-- Reads a number, which must not pass the largest double. -/
def readNumber (text : List Char) : Except Fault (Number × List Char) := do
  let (number, rest) ← takeNumber text
  if number.toBinary64.isFinite then .ok (number, rest) else .error .malformed

def hexCode? (a b c d : Char) : Option Nat := Text.readHex 0 [a, b, c, d]

def isHighSurrogate (code : Nat) : Bool := 0xD800 ≤ code && code ≤ 0xDBFF

def isLowSurrogate (code : Nat) : Bool := 0xDC00 ≤ code && code ≤ 0xDFFF

/-- The character that a letter stands for behind a backslash. -/
def unescaped? (letter : Char) : Option Char :=
  match letter with
  | '"' => some '"'
  | '\\' => some '\\'
  | '/' => some '/'
  | 'b' => some '\x08'
  | 'f' => some '\x0c'
  | 'n' => some '\x0a'
  | 'r' => some '\x0d'
  | 't' => some '\x09'
  | _ => none

/-- Reads the rest of a string behind its opening quote. An escaped surrogate must be one of a
pair. -/
def readStringRest : List Char → Except Fault (List Char × List Char)
  | [] => .error .malformed
  | '"' :: rest => .ok ([], rest)
  | '\\' :: 'u' :: a :: b :: c :: d :: rest =>
    match hexCode? a b c d with
    | none => .error .malformed
    | some code =>
      if isLowSurrogate code then .error .malformed
      else if isHighSurrogate code then
        match rest with
        | '\\' :: 'u' :: e :: f :: g :: h :: rest =>
          match hexCode? e f g h with
          | none => .error .malformed
          | some low =>
            if isLowSurrogate low then
              (readStringRest rest).map fun (text, rest) =>
                (Char.ofNat (0x10000 + (code - 0xD800) * 0x400 + (low - 0xDC00)) :: text, rest)
            else .error .malformed
        | _ => .error .malformed
      else (readStringRest rest).map fun (text, rest) => (Char.ofNat code :: text, rest)
  | '\\' :: letter :: rest =>
    match unescaped? letter with
    | none => .error .malformed
    | some character => (readStringRest rest).map fun (text, rest) => (character :: text, rest)
  | character :: rest =>
    if character.toNat < 0x20 then .error .malformed
    else (readStringRest rest).map fun (text, rest) => (character :: text, rest)

/-- The fault of finding another value than the wanted one at the front of a text. -/
def faultOfOther (text : List Char) : Fault :=
  let judge {Value : Type} : Except Fault Value → Fault
    | .ok _ => .unfit
    | .error fault => fault
  match text with
  | 'n' :: rest => judge (skipWord ['u', 'l', 'l'] rest)
  | 't' :: rest => judge (skipWord ['r', 'u', 'e'] rest)
  | 'f' :: rest => judge (skipWord ['a', 'l', 's', 'e'] rest)
  | '"' :: rest => judge (readStringRest rest)
  | '[' :: _ | '\x7b' :: _ => .unfit
  | '-' :: _ => judge (readNumber text)
  | character :: _ => if character.isDigit then judge (readNumber text) else .malformed
  | [] => .malformed

def startsNumber : List Char → Bool
  | [] => false
  | character :: _ => character == '-' || character.isDigit

def readString : Reader (List Char) := fun text =>
  match skipBlanks text with
  | '"' :: rest => readStringRest rest
  | other => .error (faultOfOther other)

def readText : Reader String := fun text =>
  (readString text).map fun (value, rest) => (String.ofList value, rest)

def readBoolean : Reader Bool := fun text =>
  match skipBlanks text with
  | 't' :: rest => (skipWord ['r', 'u', 'e'] rest).map fun rest => (true, rest)
  | 'f' :: rest => (skipWord ['a', 'l', 's', 'e'] rest).map fun rest => (false, rest)
  | other => .error (faultOfOther other)

/-- Reads a number and takes from it what `fit` accepts. -/
def readFitting {Value : Type} (fit : Number → Option Value) : Reader Value := fun text =>
  let text := skipBlanks text
  if startsNumber text then do
    let (number, rest) ← readNumber text
    match fit number with
    | some value => .ok (value, rest)
    | none => .error .unfit
  else .error (faultOfOther text)

def readDouble : Reader Binary64 := readFitting fun number => some number.toBinary64

/-- The integer of a number without fraction or exponent; a negative zero is none. -/
def Number.toInt? (number : Number) : Option Int :=
  if !number.integral || (number.negative && number.digits == 0) then none
  else if number.negative then some (-(number.digits : Int)) else some (number.digits : Int)

def readId : Reader Int32 := readFitting fun number =>
  number.toInt?.bind fun value =>
    if -2 ^ 31 ≤ value ∧ value < 2 ^ 31 then some (Int32.ofInt value) else none

def readSize : Reader Nat := readFitting fun number =>
  number.toInt?.bind fun value =>
    if 0 ≤ value ∧ value < 2 ^ 64 then some value.toNat else none

/-- Reads null as an absent value. -/
def readOptional {Value : Type} (read : Reader Value) : Reader (Option Value) := fun text =>
  match skipBlanks text with
  | 'n' :: rest => (skipWord ['u', 'l', 'l'] rest).map fun rest => (none, rest)
  | other => (read other).map fun (value, rest) => (some value, rest)

/-- Reads a string and takes from it what `fit` accepts. -/
def readSpelled {Value : Type} (fit : List Char → Option Value) : Reader Value := fun text => do
  let (spelling, rest) ← readString text
  match fit spelling with
  | some value => .ok (value, rest)
  | none => .error .unfit

/-- The start of the next item of an array or object: every item but the first follows a comma. -/
def nextItem (first : Bool) (text : List Char) : Except Fault (List Char) :=
  if first then .ok text
  else match text with
    | ',' :: rest => .ok (skipBlanks rest)
    | _ => .error .malformed

/-- Reads the elements of an array up to its bracket; `fuel` bounds their number. -/
def readElements {Value : Type} (read : Reader Value) :
    Nat → Bool → List Char → Except Fault (List Value × List Char)
  | 0, _, _ => .error .malformed
  | fuel + 1, first, text =>
    match skipBlanks text with
    | ']' :: rest => .ok ([], rest)
    | text => do
      let (value, rest) ← read (← nextItem first text)
      let (values, rest) ← readElements read fuel false rest
      .ok (value :: values, rest)

def readArray {Value : Type} (read : Reader Value) : Reader (List Value) := fun text =>
  match skipBlanks text with
  | '[' :: rest => readElements read (rest.length + 1) true rest
  | other => .error (faultOfOther other)

/-- Reads one value and nothing but blanks behind it. -/
def readWhole {Value : Type} (read : Reader Value) (text : List Char) : Except Fault Value := do
  let (value, rest) ← read text
  if (skipBlanks rest).isEmpty then .ok value else .error .malformed

end MangaRecommender.Json
