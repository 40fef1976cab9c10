import Mathlib
import MangaRecommender.Cache.Key
import MangaRecommender.Proofs.Json.Number
import MangaRecommender.Proofs.Text.Hexadecimal

/-!
# Keys are told apart by their texts

The text of a user has a fixed length, so the text of a key splits behind it.  The digits come
back once the hyphens are taken out, and the number of the collection comes back by reading it.
-/

namespace MangaRecommender

theorem Text.ne_hyphen_of_mem_hexDigits {count value : Nat} {character : Char}
    (hmem : character ∈ hexDigits count value) : character ≠ '-' := by
  obtain ⟨digit, hdigit, rfl⟩ := exists_of_mem_hexDigits hmem
  have hother : ∀ digit < 16, hexDigit digit ≠ '-' := by decide
  exact hother digit hdigit

theorem Text.signedDecimal_toInt_injective {left right : Int32}
    (heq : signedDecimal left.toInt = signedDecimal right.toInt) : left = right := by
  have hends : Json.EndsToken [] := fun character hhead => by simp at hhead
  have hleft := Json.readId_signedDecimal left hends
  rw [heq, Json.readId_signedDecimal right hends] at hleft
  exact (congrArg Prod.fst (Except.ok.inj hleft)).symm

namespace Uuid

/-- The hyphens are all that is added to the digits. -/
theorem filter_hyphenate (sizes : List Nat) {digits : List Char}
    (hdigits : ∀ character ∈ digits, character ≠ '-') :
    (hyphenate sizes digits).filter (· != '-') = digits := by
  have hkeep : ∀ part : List Char, (∀ character ∈ part, character ≠ '-') →
      part.filter (· != '-') = part :=
    fun part hpart => List.filter_eq_self.2 fun character hmem => bne_iff_ne.2 (hpart character hmem)
  induction sizes generalizing digits with
  | nil => exact hkeep digits hdigits
  | cons size more ih =>
    cases more with
    | nil => exact hkeep digits hdigits
    | cons next more =>
      have hhead := hkeep (digits.take size) fun character hmem =>
        hdigits character (List.mem_of_mem_take hmem)
      have htail := ih fun character (hmem : character ∈ digits.drop size) =>
        hdigits character (List.mem_of_mem_drop hmem)
      calc (hyphenate (size :: next :: more) digits).filter (· != '-')
          = (digits.take size ++ '-' :: hyphenate (next :: more) (digits.drop size)).filter
              (· != '-') := rfl
        _ = digits.take size ++ digits.drop size := by
            rw [List.filter_append, hhead, List.filter_cons_of_neg (by decide), htail]
        _ = digits := List.take_append_drop size digits

theorem text_injective {left right : Uuid} (heq : left.text = right.text) : left = right := by
  have hdigits : ∀ identifier : Uuid, identifier.text.filter (· != '-') =
      Text.hexDigits 32 identifier.value := fun identifier =>
    filter_hyphenate groupSizes fun character => Text.ne_hyphen_of_mem_hexDigits
  have hequal := congrArg (List.filter (· != '-')) heq
  rw [hdigits, hdigits] at hequal
  have hbound : ∀ identifier : Uuid, identifier.value < 16 ^ 32 := fun identifier =>
    lt_of_lt_of_eq identifier.value_lt (by decide)
  have hvalue := Text.hexDigits_injective (hbound left) (hbound right) hequal
  cases left
  cases right
  cases hvalue
  rfl

theorem length_text (identifier : Uuid) : identifier.text.length = 36 := by
  simp [text, hyphenate, groupSizes, Text.length_hexDigits]

end Uuid

namespace CacheKey

/-- Keys of different users or collections have different texts. -/
theorem text_injective {left right : CacheKey} (heq : left.text = right.text) : left = right := by
  have hchars := String.ofList_injective heq
  rw [List.append_assoc, List.append_assoc] at hchars
  have hframe := List.append_cancel_left hchars
  obtain ⟨huser, hrest⟩ := List.append_inj hframe
    (by rw [Uuid.length_text, Uuid.length_text])
  have hcollection := Text.signedDecimal_toInt_injective (List.cons.inj hrest).2
  cases left
  cases right
  cases hcollection
  cases Uuid.text_injective huser
  rfl

end CacheKey

end MangaRecommender
