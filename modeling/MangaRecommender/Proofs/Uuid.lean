import Mathlib
import MangaRecommender.Proofs.Text.Hexadecimal
import MangaRecommender.Uuid

/-!
# The spellings of an identifier

An identifier is read from its digits in either case, alone or in hyphenated groups, and these may
stand in braces or behind the name of the urn.  The first character tells the spellings apart: a
brace, the first letter of the urn or a digit.  Reading accepts exactly these spellings, so that
two texts are read alike only if they spell the same identifier.
-/

namespace MangaRecommender.Uuid

/-- The digits of the identifier, each in either case. -/
def HasDigits (identifier : Uuid) (digits : List Char) : Prop :=
  digits.map Char.toLower = Text.hexDigits 32 identifier.value

/-- The texts that spell an identifier. -/
inductive Spells (identifier : Uuid) : List Char → Prop
  | plain {digits : List Char} (hdigits : identifier.HasDigits digits) : Spells identifier digits
  | hyphenated {digits : List Char} (hdigits : identifier.HasDigits digits) :
      Spells identifier (hyphenate groupSizes digits)
  | braced {digits : List Char} (hdigits : identifier.HasDigits digits) :
      Spells identifier ('{' :: (hyphenate groupSizes digits ++ ['}']))
  | urn {name digits : List Char} (hname : name.map Char.toLower = urnName)
      (hdigits : identifier.HasDigits digits) :
      Spells identifier (name ++ hyphenate groupSizes digits)

variable {identifier : Uuid} {digits text : List Char}

theorem HasDigits.length_eq (hdigits : identifier.HasDigits digits) : digits.length = 32 := by
  rw [← List.length_map Char.toLower, hdigits, Text.length_hexDigits]

theorem hasDigits_hexDigits (identifier : Uuid) :
    identifier.HasDigits (Text.hexDigits 32 identifier.value) := by
  have hread := Text.readHex_hexDigits 32 identifier.value
  rw [Nat.mod_eq_of_lt (lt_of_lt_of_eq identifier.value_lt (by decide))] at hread
  have hlower := (Text.readHex_eq_some_iff.1 hread).2
  rwa [Text.length_hexDigits] at hlower

/-! ## Digits and groups -/

theorem ofDigits?_eq_some_iff : ofDigits? digits = some identifier ↔ identifier.HasDigits digits := by
  have hbound : (16 : Nat) ^ 32 = 2 ^ 128 := by decide
  rw [ofDigits?]
  constructor
  · intro hread
    split at hread
    · next hlength =>
      obtain ⟨value, hvalue, hidentifier⟩ := Option.bind_eq_some_iff.1 hread
      split at hidentifier
      · cases hidentifier
        have hlower := (Text.readHex_eq_some_iff.1 hvalue).2
        rwa [hlength] at hlower
      · cases hidentifier
    · cases hread
  · intro hdigits
    have hvalue : Text.readHex 0 digits = some identifier.value := by
      rw [Text.readHex_eq_some_iff, hdigits.length_eq, hbound]
      exact ⟨identifier.value_lt, hdigits⟩
    rw [if_pos hdigits.length_eq, hvalue, Option.bind_some, dif_pos identifier.value_lt]

/-- A group is read up to a hyphen, and the rest behind it. -/
theorem joinGroups_cons_cons_eq_some_iff {size next : Nat} {more : List Nat} :
    joinGroups (size :: next :: more) text = some digits ↔
      ∃ group behind rest, group.length = size ∧ text = group ++ '-' :: behind ∧
        joinGroups (next :: more) behind = some rest ∧ digits = group ++ rest := by
  have hjoin : joinGroups (size :: next :: more) text =
      if (text.drop size).head? = some '-' then
        (joinGroups (next :: more) (text.drop (size + 1))).map (text.take size ++ ·)
      else none := rfl
  rw [hjoin]
  constructor
  · intro hread
    split at hread
    · next hhyphen =>
      obtain ⟨rest, hrest, rfl⟩ := Option.map_eq_some_iff.1 hread
      obtain ⟨behind, hbehind⟩ := List.head?_eq_some_iff.1 hhyphen
      have htake : (text.take size).length = size := by
        have hdrop := congrArg List.length hbehind
        rw [List.length_drop, List.length_cons] at hdrop
        exact List.length_take_of_le (by omega)
      rw [← List.tail_drop, hbehind, List.tail_cons] at hrest
      refine ⟨text.take size, behind, rest, htake, ?_, hrest, rfl⟩
      rw [← hbehind, List.take_append_drop]
    · cases hread
  · rintro ⟨group, behind, rest, hgroup, rfl, hrest, rfl⟩
    rw [← List.tail_drop, List.drop_left' hgroup, List.take_left' hgroup, List.head?_cons,
      if_pos rfl, List.tail_cons, hrest, Option.map_some]

/-- Groups are joined if they are what the digits are cut into. -/
theorem joinGroups_eq_some_iff {sizes : List Nat} :
    joinGroups sizes text = some digits ↔
      digits.length = sizes.sum ∧ text = hyphenate sizes digits := by
  induction sizes generalizing text digits with
  | nil =>
    cases text with
    | nil => simp [joinGroups, hyphenate, eq_comm]
    | cons first rest =>
      simp only [joinGroups, hyphenate, List.isEmpty_cons, Bool.false_eq_true, if_false,
        List.sum_nil, List.length_eq_zero_iff, reduceCtorEq, false_iff]
      rintro ⟨rfl, htext⟩
      cases htext
  | cons size more ih =>
    cases more with
    | nil =>
      rw [joinGroups, hyphenate, List.sum_singleton]
      constructor
      · intro hread
        split at hread
        · next hlength =>
          cases hread
          exact ⟨hlength, rfl⟩
        · cases hread
      · rintro ⟨hlength, rfl⟩
        exact if_pos hlength
    | cons next more =>
      have hhyphenate : hyphenate (size :: next :: more) digits =
          digits.take size ++ '-' :: hyphenate (next :: more) (digits.drop size) := rfl
      rw [joinGroups_cons_cons_eq_some_iff, hhyphenate, List.sum_cons]
      constructor
      · rintro ⟨group, behind, rest, hgroup, rfl, hrest, rfl⟩
        obtain ⟨hlength, hbehind⟩ := ih.1 hrest
        rw [List.length_append, List.take_left' hgroup, List.drop_left' hgroup, hbehind]
        exact ⟨by rw [hgroup, hlength], rfl⟩
      · rintro ⟨hlength, htext⟩
        refine ⟨digits.take size, _, digits.drop size, List.length_take_of_le (by omega), htext,
          ih.2 ⟨?_, rfl⟩, (List.take_append_drop size digits).symm⟩
        rw [List.length_drop, hlength]
        omega

theorem ofHyphenated?_eq_some_iff :
    ofHyphenated? text = some identifier ↔
      ∃ digits, identifier.HasDigits digits ∧ text = hyphenate groupSizes digits := by
  rw [ofHyphenated?, Option.bind_eq_some_iff]
  constructor
  · rintro ⟨digits, hgroups, hdigits⟩
    exact ⟨digits, ofDigits?_eq_some_iff.1 hdigits, (joinGroups_eq_some_iff.1 hgroups).2⟩
  · rintro ⟨digits, hdigits, htext⟩
    exact ⟨digits, joinGroups_eq_some_iff.2 ⟨hdigits.length_eq, htext⟩,
      ofDigits?_eq_some_iff.2 hdigits⟩

/-! ## The first character -/

theorem HasDigits.length_hyphenate (hdigits : identifier.HasDigits digits) :
    (hyphenate groupSizes digits).length = 36 := by
  simp [hyphenate, groupSizes, hdigits.length_eq]

/-- Both forms of the digits begin with one of them, which is neither a brace nor a letter of the
urn. -/
theorem HasDigits.begins (hdigits : identifier.HasDigits digits) :
    ∃ first rest behind, digits = first :: rest ∧ hyphenate groupSizes digits = first :: behind ∧
      first ≠ '{' ∧ first.toLower ≠ 'u' := by
  cases digits with
  | nil => cases hdigits.length_eq
  | cons first rest =>
    have hmem : first.toLower ∈ Text.hexDigits 32 identifier.value :=
      hdigits ▸ List.mem_cons_self
    obtain ⟨digit, hdigit, hlower⟩ := Text.exists_of_mem_hexDigits hmem
    have hother : ∀ digit < 16, Text.hexDigit digit ≠ '{' ∧ Text.hexDigit digit ≠ 'u' := by decide
    obtain ⟨hbrace, hurn⟩ := hother digit hdigit
    refine ⟨first, rest, _, rfl, rfl, ?_, hlower ▸ hurn⟩
    rintro rfl
    exact hbrace hlower.symm

/-- A text that begins otherwise is read as digits, with hyphens or without. -/
theorem ofText?_of_begins {first : Char} {rest : List Char} (hbrace : first ≠ '{')
    (hurn : first.toLower ≠ 'u') :
    ofText? (first :: rest) = (ofDigits? (first :: rest)).or (ofHyphenated? (first :: rest)) := by
  unfold ofText?
  split
  · next heq => exact absurd (List.cons.inj heq).1 hbrace
  · exact if_neg fun hname => hurn (List.cons.inj hname).1

theorem ofText?_urn {name : List Char} (hname : name.map Char.toLower = urnName)
    (rest : List Char) : ofText? (name ++ rest) = ofHyphenated? rest := by
  have hlength : name.length = urnName.length := by rw [← hname, List.length_map]
  unfold ofText?
  split
  · next heq =>
    -- A name of the urn begins with no brace.
    cases name with
    | nil => cases hname
    | cons first behind =>
      obtain rfl : first = '{' := (List.cons.inj heq).1
      exact absurd (List.cons.inj hname).1 (by decide)
  · rw [List.take_left' hlength, List.drop_left' hlength, if_pos hname]

/-! ## Spellings -/

theorem ofText?_of_spells (hspells : identifier.Spells text) : ofText? text = some identifier := by
  cases hspells with
  | plain hdigits =>
    obtain ⟨first, rest, behind, rfl, -, hbrace, hurn⟩ := hdigits.begins
    rw [ofText?_of_begins hbrace hurn, ofDigits?_eq_some_iff.2 hdigits, Option.some_or]
  | @hyphenated digits hdigits =>
    have hread := ofHyphenated?_eq_some_iff.2 ⟨digits, hdigits, rfl⟩
    have hlength := hdigits.length_hyphenate
    obtain ⟨first, rest, behind, -, htext, hbrace, hurn⟩ := hdigits.begins
    rw [htext] at hread hlength ⊢
    rw [ofText?_of_begins hbrace hurn, ofDigits?, if_neg (by omega), Option.none_or, hread]
  | @braced digits hdigits =>
    have hread := ofHyphenated?_eq_some_iff.2 ⟨digits, hdigits, rfl⟩
    show (if (hyphenate groupSizes digits ++ ['}']).getLast? = some '}' then
      ofHyphenated? (hyphenate groupSizes digits ++ ['}']).dropLast else none) = some identifier
    rw [List.getLast?_concat, if_pos rfl, List.dropLast_concat, hread]
  | urn hname hdigits =>
    rw [ofText?_urn hname]
    exact ofHyphenated?_eq_some_iff.2 ⟨_, hdigits, rfl⟩

theorem spells_of_ofText? (hread : ofText? text = some identifier) : identifier.Spells text := by
  unfold ofText? at hread
  split at hread
  · next rest =>
    split at hread
    · next hlast =>
      obtain ⟨inner, rfl⟩ := List.getLast?_eq_some_iff.1 hlast
      rw [List.dropLast_concat] at hread
      obtain ⟨digits, hdigits, rfl⟩ := ofHyphenated?_eq_some_iff.1 hread
      exact .braced hdigits
    · cases hread
  · split at hread
    · next hname =>
      obtain ⟨digits, hdigits, hrest⟩ := ofHyphenated?_eq_some_iff.1 hread
      rw [← List.take_append_drop urnName.length text, hrest]
      exact .urn hname hdigits
    · rcases Option.or_eq_some_iff.1 hread with hplain | ⟨-, hhyphenated⟩
      · exact .plain (ofDigits?_eq_some_iff.1 hplain)
      · obtain ⟨digits, hdigits, rfl⟩ := ofHyphenated?_eq_some_iff.1 hhyphenated
        exact .hyphenated hdigits

/-- A text is read as an identifier if it spells it. -/
theorem ofText?_eq_some_iff : ofText? text = some identifier ↔ identifier.Spells text :=
  ⟨spells_of_ofText?, ofText?_of_spells⟩

/-- The written form is one of the spellings. -/
theorem spells_text (identifier : Uuid) : identifier.Spells identifier.text :=
  .hyphenated identifier.hasDigits_hexDigits

end MangaRecommender.Uuid
