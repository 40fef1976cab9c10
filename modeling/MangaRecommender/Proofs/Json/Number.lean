import Mathlib
import MangaRecommender.Json.Reader
import MangaRecommender.Json.Writer
import MangaRecommender.Proofs.Decimal.Shortest

/-!
# Numbers are read back as written

A number is spelled by its whole digits, perhaps a fraction and perhaps an exponent.  The reader
takes exactly such a spelling off the front of a text, as long as what follows cannot belong to a
number.  The layouts of a finite double are spellings of the value of its shortest decimal, so the
double is read back; the decimal of an id is read back as the id.
-/

namespace MangaRecommender.Json

open Decimal (exponentPart)
open Text (decimal signedDecimal)

/-- What may follow a value inside an array or object. -/
def EndsToken (text : List Char) : Prop :=
  ∀ character ∈ text.head?, character = ',' ∨ character = ']' ∨ character = '\x7d'

/-! ## Digits -/

theorem isDigit_of_mem_decimal {number : Nat} {character : Char}
    (hmem : character ∈ decimal number) : character.isDigit = true :=
  Nat.isDigit_of_mem_toDigits (by decide) (by decide) hmem

theorem decimal_ne_nil (number : Nat) : decimal number ≠ [] := Nat.toDigits_ne_nil

theorem ofDigitChars_decimal (number : Nat) : Nat.ofDigitChars 10 (decimal number) 0 = number :=
  Nat.ofDigitChars_ten_toDigits

/-- Only zero itself begins with the digit zero. -/
theorem head?_decimal_ne_zero {number : Nat} (hpositive : 0 < number) :
    (decimal number).head? ≠ some '0' := by
  induction number using Nat.strong_induction_on with
  | _ number ih =>
    rcases Nat.lt_or_ge number 10 with hsmall | hlarge
    · rw [decimal, Nat.toDigits_of_lt_base hsmall]
      simpa using hpositive.ne'
    · have hhead := ih (number / 10) (by omega) (by omega)
      rw [decimal] at hhead
      rw [decimal, Nat.toDigits_of_base_le (by decide) hlarge,
        List.head?_append_of_ne_nil _ Nat.toDigits_ne_nil]
      exact hhead

theorem takeDigits_append {digits rest : List Char} (hne : digits ≠ [])
    (hdigits : ∀ character ∈ digits, character.isDigit = true)
    (hrest : ∀ character ∈ rest.head?, character.isDigit = false) :
    takeDigits (digits ++ rest) = .ok (digits, rest) := by
  have hstop : rest.takeWhile Char.isDigit = [] ∧ rest.dropWhile Char.isDigit = rest := by
    cases rest with
    | nil => exact ⟨rfl, rfl⟩
    | cons character rest => simp [hrest character rfl]
  have htake : (digits ++ rest).takeWhile Char.isDigit = digits := by
    rw [List.takeWhile_append_of_pos hdigits, hstop.1, List.append_nil]
  have hdrop : (digits ++ rest).dropWhile Char.isDigit = rest := by
    rw [List.dropWhile_append_of_pos hdigits, hstop.2]
  simp [takeDigits, htake, hdrop, hne]

/-! ## Spellings -/

/-- The parts of a number as they are written. -/
structure Spelling where
  whole : List Char
  fraction : List Char
  exponent : Option Int
  isDigit_whole : ∀ character ∈ whole, character.isDigit = true
  isDigit_fraction : ∀ character ∈ fraction, character.isDigit = true
  whole_ne_nil : whole ≠ []
  noLeadingZero : whole.head? = some '0' → whole.length = 1

namespace Spelling

def fractionText : List Char → List Char
  | [] => []
  | digit :: digits => '.' :: digit :: digits

def exponentText : Option Int → List Char
  | none => []
  | some exponent => exponentPart exponent

def text (spelling : Spelling) : List Char :=
  spelling.whole ++ (fractionText spelling.fraction ++ exponentText spelling.exponent)

/-- The number that is spelled, apart from its sign. -/
def decimal (spelling : Spelling) : Decimal :=
  ⟨Nat.ofDigitChars 10 (spelling.whole ++ spelling.fraction) 0,
    spelling.exponent.getD 0 - (spelling.fraction.length : Int)⟩

def number (spelling : Spelling) (negative : Bool) : Number :=
  ⟨negative, spelling.decimal.digits, spelling.decimal.exponent,
    spelling.fraction.isEmpty && spelling.exponent.isNone⟩

end Spelling

open Spelling

theorem not_isDigit_of_endsToken {rest : List Char} (hrest : EndsToken rest) :
    ∀ character ∈ rest.head?, character.isDigit = false := by
  intro character hhead
  rcases hrest character hhead with rfl | rfl | rfl <;> rfl

theorem takeDigits_decimal (number : Nat) {rest : List Char} (hrest : EndsToken rest) :
    takeDigits (Text.decimal number ++ rest) = .ok (Text.decimal number, rest) :=
  takeDigits_append (decimal_ne_nil number) (fun _ => isDigit_of_mem_decimal)
    (not_isDigit_of_endsToken hrest)

theorem takeExponent_append (exponent : Option Int) {rest : List Char} (hrest : EndsToken rest) :
    takeExponent (exponentText exponent ++ rest) = .ok (exponent, rest) := by
  cases exponent with
  | none =>
    cases rest with
    | nil => rfl
    | cons character rest => rcases hrest character rfl with rfl | rfl | rfl <;> rfl
  | some exponent =>
    have hdigits := takeDigits_decimal exponent.natAbs hrest
    by_cases hnegative : exponent < 0
    · simp [exponentText, exponentPart, signedDecimal, hnegative, takeExponent, takeSignedDigits,
        hdigits, Except.map, ofDigitChars_decimal, abs_of_neg hnegative]
    · simp [exponentText, exponentPart, signedDecimal, hnegative, takeExponent, takeSignedDigits,
        hdigits, Except.map, ofDigitChars_decimal, Int.not_lt.1 hnegative]

/-- Neither an exponent nor the end of a token goes on with digits or a point. -/
theorem head?_exponentText_append (exponent : Option Int) {rest : List Char}
    (hrest : EndsToken rest) :
    ∀ character ∈ (exponentText exponent ++ rest).head?,
      character.isDigit = false ∧ character ≠ '.' := by
  cases exponent with
  | none =>
    intro character hhead
    rcases hrest character hhead with rfl | rfl | rfl <;> decide
  | some exponent =>
    intro character hhead
    have hletter : character = 'e' := by
      simp only [exponentText, exponentPart] at hhead
      split at hhead <;> simpa using hhead.symm
    rw [hletter]
    decide

theorem takeFraction_append {fraction tail : List Char}
    (hfraction : ∀ character ∈ fraction, character.isDigit = true)
    (htail : ∀ character ∈ tail.head?, character.isDigit = false ∧ character ≠ '.') :
    takeFraction (fractionText fraction ++ tail) = .ok (fraction, tail) := by
  cases fraction with
  | nil =>
    cases tail with
    | nil => rfl
    | cons character tail =>
      have hpoint := (htail character rfl).2
      simp only [fractionText, List.nil_append]
      unfold takeFraction
      split
      · next heq => exact absurd (List.cons.inj heq).1 hpoint
      · rfl
  | cons digit digits =>
    simp only [fractionText, List.cons_append, takeFraction]
    exact takeDigits_append (List.cons_ne_nil _ _) hfraction fun character hhead =>
      (htail character hhead).1

/-- A spelling is taken off the front of a text. -/
theorem takeUnsigned_text (spelling : Spelling) (negative : Bool) {rest : List Char}
    (hrest : EndsToken rest) :
    takeUnsigned negative (spelling.text ++ rest) = .ok (spelling.number negative, rest) := by
  have htail := head?_exponentText_append spelling.exponent hrest
  have hfraction := takeFraction_append spelling.isDigit_fraction htail
  have hafter : ∀ character ∈
      (fractionText spelling.fraction ++ (exponentText spelling.exponent ++ rest)).head?,
      character.isDigit = false := by
    cases spelling.fraction with
    | nil => exact fun character hhead => (htail character hhead).1
    | cons digit digits =>
      intro character hhead
      obtain rfl : '.' = character := by simpa [fractionText] using hhead
      rfl
  have hdigits := takeDigits_append spelling.whole_ne_nil spelling.isDigit_whole hafter
  have hwhole : takeWhole (spelling.whole ++
      (fractionText spelling.fraction ++ (exponentText spelling.exponent ++ rest))) =
        .ok (spelling.whole,
          fractionText spelling.fraction ++ (exponentText spelling.exponent ++ rest)) := by
    have hzero : ¬(spelling.whole.head? = some '0' ∧ 1 < spelling.whole.length) := by
      rintro ⟨hhead, hlength⟩
      rw [spelling.noLeadingZero hhead] at hlength
      exact absurd hlength (by decide)
    simp only [takeWhole, hdigits, bind, Except.bind, if_neg hzero]
  simp only [takeUnsigned, Spelling.text, List.append_assoc, hwhole, hfraction,
    takeExponent_append spelling.exponent hrest, bind, Except.bind]
  rfl

/-! ## Finite doubles -/

theorem fractionText_of_ne_nil {fraction : List Char} (hne : fraction ≠ []) :
    fractionText fraction = '.' :: fraction := by
  cases fraction with
  | nil => exact absurd rfl hne
  | cons digit digits => rfl

theorem ofDigitChars_zeros_append (count : Nat) (digits : List Char) :
    Nat.ofDigitChars 10 (List.replicate count '0' ++ digits) 0 = Nat.ofDigitChars 10 digits 0 := by
  rw [Nat.ofDigitChars_append, Nat.ofDigitChars_replicate_zero, Nat.mul_zero]

theorem isDigit_of_mem_zeros {count : Nat} {character : Char}
    (hmem : character ∈ List.replicate count '0') : character.isDigit = true := by
  rw [List.eq_of_mem_replicate hmem]
  rfl

section Layout

variable {digits : List Char} (hdigits : ∀ character ∈ digits, character.isDigit = true)
  (hne : digits ≠ []) (hhead : digits.head? ≠ some '0')

include hdigits hne hhead

/-- Digits with zeros behind them and a point. -/
theorem exists_spelling_zeros_behind (zeros : Nat) :
    ∃ spelling : Spelling,
      digits ++ List.replicate zeros '0' ++ ['.', '0'] = spelling.text ∧
        spelling.decimal.value = Nat.ofDigitChars 10 digits 0 * 10 ^ zeros := by
  refine ⟨⟨digits ++ List.replicate zeros '0', List.replicate 1 '0', none, ?_,
    fun _ => isDigit_of_mem_zeros, ?_, ?_⟩, ?_, ?_⟩
  · intro character hmem
    rcases List.mem_append.1 hmem with hmem | hmem
    · exact hdigits character hmem
    · exact isDigit_of_mem_zeros hmem
  · simp [hne]
  · intro hzero
    rw [List.head?_append_of_ne_nil _ hne] at hzero
    exact absurd hzero hhead
  · simp [Spelling.text, fractionText, exponentText]
  · simp only [Spelling.decimal, Decimal.value, Nat.ofDigitChars_append,
      Nat.ofDigitChars_replicate_zero]
    simp
    ring

/-- Digits with a point among them. -/
theorem exists_spelling_point_inside (place : Nat) (hplace : 0 < place)
    (hinside : place < digits.length) :
    ∃ spelling : Spelling,
      digits.take place ++ '.' :: digits.drop place = spelling.text ∧
        spelling.decimal.value =
          Nat.ofDigitChars 10 digits 0 * 10 ^ ((place : Int) - digits.length) := by
  have hfraction : digits.drop place ≠ [] := by
    rw [Ne, List.drop_eq_nil_iff]
    omega
  refine ⟨⟨digits.take place, digits.drop place, none, ?_, ?_, ?_, ?_⟩, ?_, ?_⟩
  · exact fun character hmem => hdigits character (List.mem_of_mem_take hmem)
  · exact fun character hmem => hdigits character (List.mem_of_mem_drop hmem)
  · rw [Ne, List.take_eq_nil_iff]
    rintro (hzero | hnil)
    · omega
    · exact hne hnil
  · intro hzero
    rw [List.head?_take, if_neg (by omega)] at hzero
    exact absurd hzero hhead
  · simp [Spelling.text, fractionText_of_ne_nil hfraction, exponentText]
  · simp only [Spelling.decimal, Decimal.value, List.take_append_drop, List.length_drop,
      Option.getD_none]
    congr 2
    omega

omit hhead in
/-- Digits with a point and zeros in front of them. -/
theorem exists_spelling_zeros_in_front (zeros : Nat) :
    ∃ spelling : Spelling,
      '0' :: '.' :: (List.replicate zeros '0' ++ digits) = spelling.text ∧
        spelling.decimal.value =
          Nat.ofDigitChars 10 digits 0 * 10 ^ (-((zeros + digits.length : ℕ) : Int)) := by
  refine ⟨⟨List.replicate 1 '0', List.replicate zeros '0' ++ digits, none,
    fun _ => isDigit_of_mem_zeros, ?_, by simp, fun _ => rfl⟩, ?_, ?_⟩
  · intro character hmem
    rcases List.mem_append.1 hmem with hmem | hmem
    · exact isDigit_of_mem_zeros hmem
    · exact hdigits character hmem
  · rw [Spelling.text, fractionText_of_ne_nil (by simp [hne])]
    simp [exponentText]
  · simp only [Spelling.decimal, Decimal.value, ofDigitChars_zeros_append]
    congr 2
    simp

omit hne hhead in
/-- One digit in front of the point, the others behind it, and an exponent. -/
theorem exists_spelling_scientific {digit : Char} {more : List Char} (exponent : Int)
    (hcons : digits = digit :: more) :
    ∃ spelling : Spelling,
      digit :: (fractionText more ++ exponentPart exponent) = spelling.text ∧
        spelling.decimal.value =
          Nat.ofDigitChars 10 digits 0 * 10 ^ (exponent - (more.length : Int)) := by
  subst hcons
  refine ⟨⟨[digit], more, some exponent, ?_, ?_, by simp, fun _ => rfl⟩, rfl, rfl⟩
  · intro character hmem
    exact hdigits character (List.mem_singleton.1 hmem ▸ List.mem_cons_self)
  · exact fun character hmem => hdigits character (List.mem_cons_of_mem _ hmem)

end Layout

/-- Every layout of a decimal is a spelling of its value. -/
theorem exists_spelling_layout {number : Decimal} (hpositive : 0 < number.digits) :
    ∃ spelling : Spelling, Decimal.layout number = spelling.text ∧
      spelling.decimal.value = number.value := by
  have hdigits : ∀ character ∈ decimal number.digits, character.isDigit = true :=
    fun _ => isDigit_of_mem_decimal
  have hhead := head?_decimal_ne_zero hpositive
  have hne := decimal_ne_nil number.digits
  have hvalue := ofDigitChars_decimal number.digits
  have hlength : 0 < (decimal number.digits).length := List.length_pos_iff.2 hne
  simp only [Decimal.layout, Decimal.value]
  generalize decimal number.digits = digits at *
  rw [← hvalue]
  split
  · next hwhole =>
    obtain ⟨spelling, htext, hspelled⟩ :=
      exists_spelling_zeros_behind hdigits hne hhead number.exponent.toNat
    refine ⟨spelling, htext, hspelled.trans ?_⟩
    rw [← zpow_natCast, Int.toNat_of_nonneg hwhole.1]
  · next hfar =>
    split
    · next hplace =>
      obtain ⟨place, hcast⟩ := Int.eq_ofNat_of_zero_le hplace.1.le
      rw [hcast] at hplace ⊢
      obtain ⟨spelling, htext, hspelled⟩ :=
        exists_spelling_point_inside hdigits hne hhead place (by omega) (by omega)
      refine ⟨spelling, htext, hspelled.trans ?_⟩
      congr 2
      omega
    · split
      · next hplace =>
        obtain ⟨spelling, htext, hspelled⟩ := exists_spelling_zeros_in_front hdigits hne
          (-(number.exponent + digits.length)).toNat
        refine ⟨spelling, htext, hspelled.trans ?_⟩
        congr 2
        omega
      · cases hcons : digits with
        | nil => exact absurd hcons hne
        | cons digit more =>
          obtain ⟨spelling, htext, hspelled⟩ := exists_spelling_scientific hdigits
            (number.exponent + (digit :: more).length - 1) hcons
          refine ⟨spelling, ?_, ?_⟩
          · rw [← htext]
            cases more <;> rfl
          · refine hspelled.trans ?_
            rw [hcons, List.length_cons]
            congr 2
            push_cast
            ring

theorem shortest_digits_pos {magnitude : Nat} (hpositive : 0 < magnitude)
    (hfinite : magnitude < Binary64.infinityMagnitude) :
    0 < (Decimal.shortest magnitude).digits := by
  have hbound : magnitude < 2 ^ 63 := hfinite.trans Binary64.infinityMagnitude_lt
  have hread := Decimal.toBinary64_shortest ⟨false, magnitude, hbound⟩ hpositive hfinite
  refine Nat.pos_of_ne_zero fun hzero => hpositive.ne ?_
  rw [Decimal.toBinary64, if_pos hzero] at hread
  exact congrArg Binary64.magnitude hread

/-- The text of a finite double spells the double behind its sign. -/
theorem exists_spelling_ofFinite {value : Binary64} (hfinite : value.isFinite = true) :
    ∃ spelling : Spelling,
      Decimal.ofFinite value =
        (if value.negative then '-' :: spelling.text else spelling.text) ∧
      (spelling.number value.negative).toBinary64 = value := by
  have hbelow : value.magnitude < Binary64.infinityMagnitude := of_decide_eq_true hfinite
  simp only [Decimal.ofFinite]
  by_cases hzero : value.magnitude = 0
  · refine ⟨⟨List.replicate 1 '0', List.replicate 1 '0', none, fun _ => isDigit_of_mem_zeros,
      fun _ => isDigit_of_mem_zeros, by simp, fun _ => rfl⟩, ?_, ?_⟩
    · simp [Binary64.isZero, hzero, Spelling.text, fractionText, exponentText]
    · obtain ⟨negative, magnitude, _⟩ := value
      subst hzero
      rfl
  · have hpositive : 0 < value.magnitude := Nat.pos_of_ne_zero hzero
    obtain ⟨spelling, htext, hvalue⟩ :=
      exists_spelling_layout (shortest_digits_pos hpositive hbelow)
    refine ⟨spelling, ?_, ?_⟩
    · simp [Binary64.isZero, hzero, htext]
    · calc (spelling.number value.negative).toBinary64
          = Decimal.toBinary64 value.negative spelling.decimal := rfl
        _ = Decimal.toBinary64 value.negative (Decimal.shortest value.magnitude) :=
            Decimal.toBinary64_congr _ hvalue
        _ = value := Decimal.toBinary64_shortest value hpositive hbelow

/-! ## Reading numbers -/

theorem startsNumber_text (spelling : Spelling) (rest : List Char) :
    ∃ digit tail, spelling.text ++ rest = digit :: tail ∧ digit.isDigit = true := by
  cases hwhole : spelling.whole with
  | nil => exact absurd hwhole spelling.whole_ne_nil
  | cons digit digits =>
    refine ⟨digit, digits ++ (fractionText spelling.fraction ++ exponentText spelling.exponent) ++
      rest, ?_, ?_⟩
    · simp [Spelling.text, hwhole]
    · exact spelling.isDigit_whole digit (hwhole ▸ List.mem_cons_self)

/-- A digit is no blank and no minus. -/
theorem isBlank_of_isDigit {character : Char} (hdigit : character.isDigit = true) :
    isBlank character = false ∧ character ≠ '-' := by
  constructor
  · by_contra hblank
    simp only [isBlank, Bool.or_eq_true, beq_iff_eq, Bool.not_eq_false] at hblank
    rcases hblank with ((rfl | rfl) | rfl) | rfl <;> exact absurd hdigit (by decide)
  · rintro rfl
    exact absurd hdigit (by decide)

/-- A signed spelling of a finite double is taken as a whole and handed to `fit`. -/
theorem readFitting_text {Value : Type} (fit : Number → Option Value) (spelling : Spelling)
    (negative : Bool) {value : Value} {rest : List Char} (hrest : EndsToken rest)
    (hfinite : (spelling.number negative).toBinary64.isFinite = true)
    (hfit : fit (spelling.number negative) = some value) :
    readFitting fit ((if negative then '-' :: spelling.text else spelling.text) ++ rest) =
      .ok (value, rest) := by
  have hunsigned := takeUnsigned_text spelling negative hrest
  cases negative with
  | true =>
    have hskip : skipBlanks ('-' :: (spelling.text ++ rest)) = '-' :: (spelling.text ++ rest) := rfl
    simp only [if_true, List.cons_append, readFitting, hskip, startsNumber, readNumber, takeNumber,
      hunsigned, bind, Except.bind, hfinite, hfit]
    rfl
  | false =>
    obtain ⟨digit, tail, htext, hdigit⟩ := startsNumber_text spelling rest
    obtain ⟨hblank, hminus⟩ := isBlank_of_isDigit hdigit
    have hskip : skipBlanks (digit :: tail) = digit :: tail := by
      simp [skipBlanks, hblank]
    have hnumber : takeNumber (digit :: tail) = takeUnsigned false (digit :: tail) := by
      unfold takeNumber
      split
      · next heq => exact absurd (List.cons.inj heq).1 hminus
      · rfl
    rw [htext] at hunsigned
    simp only [Bool.false_eq_true, if_false, htext, readFitting, hskip, startsNumber, hdigit,
      Bool.or_true, if_true, readNumber, hnumber, hunsigned, bind, Except.bind, hfinite, hfit]

theorem readDouble_ofFinite {value : Binary64} (hfinite : value.isFinite = true)
    {rest : List Char} (hrest : EndsToken rest) :
    readDouble (Decimal.ofFinite value ++ rest) = .ok (value, rest) := by
  obtain ⟨spelling, htext, hvalue⟩ := exists_spelling_ofFinite hfinite
  rw [htext]
  refine readFitting_text _ spelling value.negative hrest ?_ (congrArg some hvalue)
  rw [hvalue]
  exact hfinite

/-- The spelling of a natural number. -/
def naturalSpelling (number : Nat) : Spelling where
  whole := Text.decimal number
  fraction := []
  exponent := none
  isDigit_whole _ := isDigit_of_mem_decimal
  isDigit_fraction _ hmem := absurd hmem List.not_mem_nil
  whole_ne_nil := decimal_ne_nil number
  noLeadingZero hzero := by
    rcases Nat.eq_zero_or_pos number with rfl | hpositive
    · rfl
    · exact absurd hzero (head?_decimal_ne_zero hpositive)

theorem naturalSpelling_text (number : Nat) : (naturalSpelling number).text = Text.decimal number := by
  simp [Spelling.text, naturalSpelling, fractionText, exponentText]

theorem naturalSpelling_number (number : Nat) (negative : Bool) :
    (naturalSpelling number).number negative = ⟨negative, number, 0, true⟩ := by
  simp [Spelling.number, Spelling.decimal, naturalSpelling, ofDigitChars_decimal]

/-- An integer of 64 bits is far below the largest double. -/
theorem isFinite_toBinary64_integer {number : Nat} (negative integral : Bool)
    (hbound : number ≤ 2 ^ 64) :
    (Number.mk negative number 0 integral).toBinary64.isFinite = true := by
  have hunits : number * 10 ^ (0 : Int).toNat * Binary64.unitsPerOne ≤
      Binary64.units (Binary64.powerMagnitude 64) * 10 ^ (-0 : Int).toNat := by
    rw [Binary64.units_powerMagnitude]
    simpa using Nat.mul_le_mul_right Binary64.unitsPerOne hbound
  rw [Number.toBinary64, Decimal.toBinary64_eq_nearest]
  refine decide_eq_true (lt_of_le_of_lt ?_ (Binary64.powerMagnitude_lt (show 64 < 1024 by decide)))
  exact Binary64.nearestMagnitude_le_of_le (by simp) hunits

theorem readId_signedDecimal (id : Int32) {rest : List Char} (hrest : EndsToken rest) :
    readId (signedDecimal id.toInt ++ rest) = .ok (id, rest) := by
  have hlow : -2 ^ 31 ≤ id.toInt := id.le_toInt
  have hhigh : id.toInt < 2 ^ 31 := id.toInt_lt
  have htext : signedDecimal id.toInt =
      if decide (id.toInt < 0) then '-' :: (naturalSpelling id.toInt.natAbs).text
      else (naturalSpelling id.toInt.natAbs).text := by
    simp [signedDecimal, naturalSpelling_text]
  rw [htext]
  refine readFitting_text _ _ _ hrest ?_ ?_
  · rw [naturalSpelling_number]
    exact isFinite_toBinary64_integer _ _ (by omega)
  · rw [naturalSpelling_number]
    have hvalue : (Number.mk (decide (id.toInt < 0)) id.toInt.natAbs 0 true).toInt? =
        some id.toInt := by
      rcases Int.lt_or_le id.toInt 0 with hnegative | hnonneg
      · have hne : id.toInt ≠ 0 := by omega
        simp [Number.toInt?, hnegative, hne, abs_of_neg hnegative]
      · simp [Number.toInt?, Int.not_lt.2 hnonneg, hnonneg]
    simp only [hvalue, Option.bind_some, if_pos (And.intro hlow hhigh), Int32.ofInt_toInt]

end MangaRecommender.Json
