import Mathlib
import MangaRecommender.Binary64.Basic
import MangaRecommender.Text.Hexadecimal

/-!
# Hexadecimal digits are read back

A fixed number of digits determines the number modulo the power of sixteen that they span, so that
texts of one width are injective below that power.  What is read as a number are the digits that are
written for it, in either case, and nothing else.
-/

namespace MangaRecommender.Text

theorem hexValue?_hexDigit {value : Nat} (hvalue : value < 16) :
    hexValue? (hexDigit value) = some value := by
  interval_cases value <;> rfl

theorem readHex_append (value : Nat) (left right : List Char) :
    readHex value (left ++ right) = (readHex value left).bind fun next => readHex next right := by
  induction left generalizing value with
  | nil => rfl
  | cons character rest ih =>
    cases hdigit : hexValue? character with
    | none => simp [readHex, hdigit]
    | some digit => simp [readHex, hdigit, ih]

theorem readHex_hexDigits (count value : Nat) :
    readHex 0 (hexDigits count value) = some (value % 16 ^ count) := by
  induction count generalizing value with
  | zero => simp [hexDigits, readHex, Nat.mod_one]
  | succ count ih =>
    have hdigit := hexValue?_hexDigit (Nat.mod_lt value (show 0 < 16 by decide))
    rw [hexDigits, readHex_append, ih]
    simp only [Option.bind_some, readHex, hdigit, Option.bind_eq_bind]
    rw [pow_succ, Nat.mul_comm (16 ^ count) 16, Nat.mod_mul, Nat.add_comm]

theorem exists_of_mem_hexDigits {count value : Nat} {character : Char}
    (hmem : character ∈ hexDigits count value) : ∃ digit < 16, character = hexDigit digit := by
  induction count generalizing value with
  | zero => cases hmem
  | succ count ih =>
    rcases List.mem_append.1 hmem with hbefore | hlast
    · exact ih hbefore
    · exact ⟨value % 16, Nat.mod_lt value (by decide), List.mem_singleton.1 hlast⟩

theorem length_hexDigits (count value : Nat) : (hexDigits count value).length = count := by
  induction count generalizing value with
  | zero => rfl
  | succ count ih => simp [hexDigits, ih]

theorem hexDigits_injective {count left right : Nat} (hleft : left < 16 ^ count)
    (hright : right < 16 ^ count) (heq : hexDigits count left = hexDigits count right) :
    left = right := by
  have hread := congrArg (readHex 0) heq
  rw [readHex_hexDigits, readHex_hexDigits, Nat.mod_eq_of_lt hleft, Nat.mod_eq_of_lt hright] at hread
  exact Option.some.inj hread

/-! ## Digits in either case -/

/-- Outside ASCII there are no hexadecimal digits, and lower case changes nothing. -/
theorem hexValue?_of_not_ascii {character : Char} (hcode : 128 ≤ character.toNat) :
    hexValue? character = none ∧ character.toLower = character := by
  have hbeyond : ∀ bound : Char, bound.toNat < 128 → ¬character ≤ bound := by
    intro bound hbound hle
    rw [Char.le_def, UInt32.le_iff_toNat_le, Char.toNat_val, Char.toNat_val] at hle
    omega
  have hdigit : ¬character.isDigit = true := by
    rw [Char.isDigit_iff_toNat]
    have hnine : '9'.toNat = 57 := rfl
    omega
  constructor
  · rw [hexValue?, if_neg hdigit, if_neg fun hlower => hbeyond 'f' (by decide) hlower.2,
      if_neg fun hupper => hbeyond 'F' (by decide) hupper.2]
  · exact dif_neg fun hupper => hbeyond 'Z' (by decide) hupper.2

theorem hexValue?_of_ascii : ∀ code < 128, ∀ value < 16,
    hexValue? (Char.ofNat code) = some value ↔ (Char.ofNat code).toLower = hexDigit value := by
  decide +kernel

theorem hexValue?_lt_of_ascii : ∀ code < 128, ∀ value ∈ hexValue? (Char.ofNat code), value < 16 := by
  decide +kernel

/-- A character is read as the digit that it is in lower case. -/
theorem hexValue?_eq_some_iff {character : Char} {value : Nat} :
    hexValue? character = some value ↔ value < 16 ∧ character.toLower = hexDigit value := by
  by_cases hcode : character.toNat < 128
  · have hascii := hexValue?_of_ascii _ hcode
    have hlt := hexValue?_lt_of_ascii _ hcode
    rw [Char.ofNat_toNat] at hascii hlt
    constructor
    · intro hread
      exact ⟨hlt value hread, (hascii value (hlt value hread)).1 hread⟩
    · rintro ⟨hvalue, hlower⟩
      exact (hascii value hvalue).2 hlower
  · obtain ⟨hnone, hsame⟩ := hexValue?_of_not_ascii (not_lt.1 hcode)
    have hdigits : ∀ digit < 16, (hexDigit digit).toNat < 128 := by decide
    rw [hnone, hsame]
    constructor
    · intro hread
      cases hread
    · rintro ⟨hvalue, rfl⟩
      exact absurd (hdigits value hvalue) hcode

theorem readHex_eq_some_iff {digits : List Char} {value : Nat} :
    readHex 0 digits = some value ↔
      value < 16 ^ digits.length ∧ digits.map Char.toLower = hexDigits digits.length value := by
  -- Digits are read from the left, but written from the right.
  induction digits using List.reverseRecOn generalizing value with
  | nil => simp [readHex, hexDigits, eq_comm]
  | append_singleton digits last ih =>
    have hlast : ∀ before, readHex before [last] = (hexValue? last).map (16 * before + ·) := by
      intro before
      cases hdigit : hexValue? last <;> simp [readHex, hdigit]
    rw [readHex_append, List.length_append, List.length_singleton, hexDigits, List.map_append,
      List.map_singleton]
    constructor
    · intro hread
      obtain ⟨before, hbefore, hrest⟩ := Option.bind_eq_some_iff.1 hread
      rw [hlast] at hrest
      obtain ⟨digit, hdigit, rfl⟩ := Option.map_eq_some_iff.1 hrest
      obtain ⟨hbound, hdigits⟩ := ih.1 hbefore
      obtain ⟨hsmall, hlower⟩ := hexValue?_eq_some_iff.1 hdigit
      refine ⟨by rw [pow_succ]; omega, ?_⟩
      rw [hdigits, hlower, show (16 * before + digit) / 16 = before by omega,
        show (16 * before + digit) % 16 = digit by omega]
    · rintro ⟨hbound, hdigits⟩
      obtain ⟨hfirst, hlower⟩ := List.append_inj' hdigits rfl
      have hbefore := ih.2 ⟨by rw [pow_succ] at hbound; omega, hfirst⟩
      have hdigit := hexValue?_eq_some_iff.2
        ⟨Nat.mod_lt value (show 0 < 16 by decide), List.singleton_inj.1 hlower⟩
      rw [hbefore, Option.bind_some, hlast, hdigit, Option.map_some, Nat.div_add_mod]

end MangaRecommender.Text
