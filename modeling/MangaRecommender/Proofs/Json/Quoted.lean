import Mathlib
import MangaRecommender.Json.Reader
import MangaRecommender.Json.Writer
import MangaRecommender.Proofs.Text.Hexadecimal

/-!
# Strings are read back as written

The reader of a string undoes the escapes of the writer character by character and stops at the
closing quote, whatever follows it.
-/

namespace MangaRecommender.Json

/-- How the writer treats a character. -/
theorem escaped_cases (character : Char) :
    (∃ letter, escaped character = ['\\', letter] ∧ letter ≠ 'u' ∧
        unescaped? letter = some character) ∨
      (character.toNat < 0x20 ∧
        escaped character = '\\' :: 'u' :: Text.hexDigits 4 character.toNat) ∨
      (escaped character = [character] ∧ 0x20 ≤ character.toNat ∧ character ≠ '"' ∧
        character ≠ '\\') := by
  unfold escaped
  split
  · exact .inl ⟨_, rfl, by decide, rfl⟩
  · exact .inl ⟨_, rfl, by decide, rfl⟩
  · exact .inl ⟨_, rfl, by decide, rfl⟩
  · exact .inl ⟨_, rfl, by decide, rfl⟩
  · exact .inl ⟨_, rfl, by decide, rfl⟩
  · exact .inl ⟨_, rfl, by decide, rfl⟩
  · exact .inl ⟨_, rfl, by decide, rfl⟩
  · next hquote hbackslash _ _ _ _ _ =>
    right
    split
    · next hcontrol => exact .inl ⟨hcontrol, rfl⟩
    · next hvisible => exact .inr ⟨rfl, Nat.le_of_not_lt hvisible, hquote, hbackslash⟩

theorem readStringRest_letter {letter character : Char} (rest : List Char) (hletter : letter ≠ 'u')
    (hcharacter : unescaped? letter = some character) :
    readStringRest ('\\' :: letter :: rest) =
      (readStringRest rest).map fun (text, rest) => (character :: text, rest) := by
  rw [readStringRest.eq_def]
  split
  · next heq => cases heq
  · next heq => exact absurd (List.cons.inj heq).1 (by decide)
  · next heq => exact absurd (List.cons.inj (List.cons.inj heq).2).1 hletter
  · next heq =>
    obtain ⟨rfl, rfl⟩ := List.cons.inj (List.cons.inj heq).2
    simp only [hcharacter]
  · next hother heq =>
    obtain ⟨rfl, htail⟩ := List.cons.inj heq
    exact (hother _ _ rfl htail.symm).elim

theorem readStringRest_visible {character : Char} (rest : List Char)
    (hvisible : 0x20 ≤ character.toNat) (hquote : character ≠ '"') (hbackslash : character ≠ '\\') :
    readStringRest (character :: rest) =
      (readStringRest rest).map fun (text, rest) => (character :: text, rest) := by
  rw [readStringRest.eq_def]
  split
  · next heq => cases heq
  · next heq => exact absurd (List.cons.inj heq).1 hquote
  · next heq => exact absurd (List.cons.inj heq).1 hbackslash
  · next heq => exact absurd (List.cons.inj heq).1 hbackslash
  · next heq =>
    obtain ⟨rfl, rfl⟩ := List.cons.inj heq
    rw [if_neg (Nat.not_lt.2 hvisible)]

theorem readStringRest_control {character : Char} (rest : List Char)
    (hcontrol : character.toNat < 0x20) :
    readStringRest ('\\' :: 'u' :: (Text.hexDigits 4 character.toNat ++ rest)) =
      (readStringRest rest).map fun (text, rest) => (character :: text, rest) := by
  obtain ⟨a, b, c, d, hdigits⟩ : ∃ a b c d, Text.hexDigits 4 character.toNat = [a, b, c, d] :=
    ⟨_, _, _, _, rfl⟩
  have hcode : hexCode? a b c d = some character.toNat := by
    rw [hexCode?, ← hdigits, Text.readHex_hexDigits, Nat.mod_eq_of_lt (by omega)]
  have hlow : isLowSurrogate character.toNat = false := by
    simp only [isLowSurrogate, Bool.and_eq_false_iff, decide_eq_false_iff_not]
    omega
  have hhigh : isHighSurrogate character.toNat = false := by
    simp only [isHighSurrogate, Bool.and_eq_false_iff, decide_eq_false_iff_not]
    omega
  rw [hdigits, List.cons_append, List.cons_append, List.cons_append, List.cons_append,
    List.nil_append, readStringRest]
  simp only [hcode, hlow, hhigh, Bool.false_eq_true, if_false, Char.ofNat_toNat]

/-- The characters of a string come back, and what follows its closing quote is left. -/
theorem readStringRest_escaped (text rest : List Char) :
    readStringRest (text.flatMap escaped ++ '"' :: rest) = .ok (text, rest) := by
  induction text with
  | nil => simp [readStringRest]
  | cons character text ih =>
    rw [List.flatMap_cons, List.append_assoc]
    rcases escaped_cases character with
      ⟨letter, htext, hletter, hcharacter⟩ | ⟨hcontrol, htext⟩ | ⟨htext, hvisible, hquote, hslash⟩
    · rw [htext, List.cons_append, List.singleton_append,
        readStringRest_letter _ hletter hcharacter, ih]
      rfl
    · rw [htext, List.cons_append, List.cons_append, readStringRest_control _ hcontrol, ih]
      rfl
    · rw [htext, List.singleton_append, readStringRest_visible _ hvisible hquote hslash, ih]
      rfl

theorem quoted_append (text rest : List Char) :
    quoted text ++ rest = '"' :: (text.flatMap escaped ++ '"' :: rest) := by
  simp [quoted]

theorem readText_quoted (text : String) (rest : List Char) :
    readText (quoted text.toList ++ rest) = .ok (text, rest) := by
  have hskip : skipBlanks ('"' :: (text.toList.flatMap escaped ++ '"' :: rest)) =
      '"' :: (text.toList.flatMap escaped ++ '"' :: rest) := rfl
  simp only [readText, readString, quoted_append, hskip, readStringRest_escaped, Except.map,
    String.ofList_toList]

end MangaRecommender.Json
