import Mathlib
import MangaRecommender.Json.Record
import MangaRecommender.Proofs.Json.Number
import MangaRecommender.Proofs.Json.Quoted

/-!
# Arrays and objects are read back as written

Every value is read back in front of whatever may follow it inside an array or object.  From that
one property of the parts it is derived for optional values, for arrays of elements and for
objects of members.  Where a part is read with a fault instead, the array or object around it is
read with the same fault.  The fuel of the two loops is the length of the text, of which each
element takes at least one character.
-/

namespace MangaRecommender.Json

/-- A text stands for a value: the reader takes exactly this text and leaves what follows it. -/
def ReadsBack {Value : Type} (read : Reader Value) (text : List Char) (value : Value) : Prop :=
  ∀ rest, EndsToken rest → read (text ++ rest) = .ok (value, rest)

/-- A text is read with an outcome: a value, and what follows is left, or a fault. -/
def Reads {Value : Type} (read : Reader Value) (text : List Char)
    (outcome : Except Fault Value) : Prop :=
  ∀ rest, EndsToken rest → read (text ++ rest) = outcome.map fun value => (value, rest)

/-- A text begins with neither a blank nor the bracket that closes an array. -/
def BeginsToken (text : List Char) : Prop :=
  ∃ character tail, text = character :: tail ∧ isBlank character = false ∧ character ≠ ']'

theorem skipBlanks_cons {character : Char} (hblank : isBlank character = false)
    (tail : List Char) : skipBlanks (character :: tail) = character :: tail := by
  simp [skipBlanks, hblank]

theorem endsToken_cons_of_eq {character : Char} (rest : List Char)
    (hcharacter : character = ',' ∨ character = ']' ∨ character = '\x7d') :
    EndsToken (character :: rest) := by
  intro other hother
  obtain rfl : character = other := by simpa using hother
  exact hcharacter

/-! ## Doubles, strings and optional values -/

theorem readsBack_double {value : Binary64} (hfinite : value.isFinite = true) :
    ReadsBack readDouble (double value) value := by
  intro rest hrest
  rw [double, if_pos hfinite]
  exact readDouble_ofFinite hfinite hrest

/-- A double that is not finite is written as null, which is no double. -/
theorem reads_double_of_not_finite {value : Binary64} (hinfinite : value.isFinite = false) :
    Reads readDouble (double value) (.error .unfit) := by
  intro rest _
  rw [double, if_neg (Bool.eq_false_iff.1 hinfinite)]
  rfl

theorem readsBack_quoted (text : String) : ReadsBack readText (quoted text.toList) text :=
  fun rest _ => readText_quoted text rest

theorem readsBack_id (id : Int32) : ReadsBack readId (Text.signedDecimal id.toInt) id :=
  fun _ hrest => readId_signedDecimal id hrest

theorem readsBack_null {Value : Type} (read : Reader Value) :
    ReadsBack (readOptional read) null none :=
  fun _ _ => rfl

/-- A present value is read behind the test for null. -/
theorem ReadsBack.optional {Value : Type} {read : Reader Value} {text : List Char} {value : Value}
    (hread : ReadsBack read text value)
    (hbegins : ∃ character tail, text = character :: tail ∧ isBlank character = false ∧
      character ≠ 'n') :
    ReadsBack (readOptional read) text (some value) := by
  intro rest hrest
  obtain ⟨character, tail, rfl, hblank, hnull⟩ := hbegins
  have hvalue := hread rest hrest
  rw [List.cons_append] at hvalue ⊢
  rw [readOptional, skipBlanks_cons hblank]
  split
  · next heq => exact absurd (List.cons.inj heq).1 hnull
  · rw [hvalue]
    rfl

/-- The text of a finite double begins with its sign or a digit. -/
theorem double_begins {value : Binary64} (hfinite : value.isFinite = true) :
    ∃ character tail, double value = character :: tail ∧ isBlank character = false ∧
      character ≠ 'n' := by
  obtain ⟨spelling, htext, _⟩ := exists_spelling_ofFinite hfinite
  rw [double, if_pos hfinite, htext]
  cases value.negative with
  | true => exact ⟨'-', spelling.text, rfl, rfl, by decide⟩
  | false =>
    obtain ⟨digit, tail, hcons, hdigit⟩ := startsNumber_text spelling []
    rw [List.append_nil] at hcons
    refine ⟨digit, tail, hcons, (isBlank_of_isDigit hdigit).1, ?_⟩
    rintro rfl
    exact absurd hdigit (by decide)

/-- A rating that is not finite comes back as an absent one. -/
theorem readsBack_optional_double (rating : Option Binary64) :
    ReadsBack (readOptional readDouble) (optional double rating)
      (rating.filter Binary64.isFinite) := by
  cases rating with
  | none => exact readsBack_null readDouble
  | some value =>
    by_cases hfinite : value.isFinite = true
    · rw [Option.filter_some_pos hfinite]
      exact (readsBack_double hfinite).optional (double_begins hfinite)
    · rw [Option.filter_some_neg (Bool.not_eq_true _ ▸ hfinite), optional, double, if_neg hfinite]
      exact readsBack_null readDouble

theorem readsBack_optional_quoted (text : Option String) :
    ReadsBack (readOptional readText) (optional (fun text => quoted text.toList) text) text := by
  cases text with
  | none => exact readsBack_null readText
  | some text => exact (readsBack_quoted text).optional ⟨'"', _, rfl, rfl, by decide⟩

/-! ## Commas -/

/-- Texts with a comma in front of each. -/
def afterCommas (texts : List (List Char)) : List Char := texts.flatMap (',' :: ·)

theorem separated_cons (text : List Char) (more : List (List Char)) :
    separated (text :: more) = text ++ afterCommas more := by
  induction more generalizing text with
  | nil => simp [separated, afterCommas]
  | cons next more ih =>
    have hcons : separated (text :: next :: more) = text ++ ',' :: separated (next :: more) := rfl
    rw [hcons, ih]
    rfl

theorem length_le_length_afterCommas (texts : List (List Char)) :
    texts.length ≤ (afterCommas texts).length := by
  induction texts with
  | nil => exact Nat.le_refl 0
  | cons text more ih =>
    have hcons : afterCommas (text :: more) = ',' :: (text ++ afterCommas more) := rfl
    rw [hcons, List.length_cons, List.length_cons, List.length_append]
    omega

/-- Behind an element comes a comma or the closing bracket. -/
theorem endsToken_afterCommas (texts : List (List Char)) {closing : Char} (rest : List Char)
    (hclosing : closing = ']' ∨ closing = '\x7d') :
    EndsToken (afterCommas texts ++ closing :: rest) := by
  cases texts with
  | nil => exact endsToken_cons_of_eq rest (.inr hclosing)
  | cons text more => exact endsToken_cons_of_eq _ (.inl rfl)

/-! ## Arrays -/

section Elements

variable {Item Value : Type} {read : Reader Value} {write : Item → List Char}
  {outcome : Item → Except Fault Value}

/-- One turn of the loop, at an element that begins where `start` says. -/
theorem readElements_step {fuel : Nat} {first : Bool} {character : Char}
    {tail start rest remaining : List Char} {element : Except Fault Value}
    {elements : Except Fault (List Value)}
    (hblank : isBlank character = false) (hbracket : character ≠ ']')
    (hstart : nextItem first (character :: tail) = .ok start)
    (hread : read start = element.map fun value => (value, rest))
    (hmore : readElements read fuel false rest = elements.map fun values => (values, remaining)) :
    readElements read (fuel + 1) first (character :: tail) =
      Except.map (fun values => (values, remaining)) (do return (← element) :: (← elements)) := by
  rw [readElements, skipBlanks_cons hblank]
  split
  · next heq => exact absurd (List.cons.inj heq).1 hbracket
  · cases element with
    | error fault => simp only [hstart, hread, bind, Except.bind, Except.map]
    | ok value =>
      simp only [hstart, hread, hmore, bind, Except.bind, Except.map]
      cases elements with
      | error fault => rfl
      | ok values => rfl

/-- The elements behind the first one, and the closing bracket. -/
theorem readElements_afterCommas {items : List Item}
    (hitems : ∀ item ∈ items, Reads read (write item) (outcome item) ∧ BeginsToken (write item))
    {fuel : Nat} (hfuel : items.length < fuel) (rest : List Char) :
    readElements read fuel false (afterCommas (items.map write) ++ ']' :: rest) =
      (items.mapM outcome).map fun values => (values, rest) := by
  induction items generalizing fuel with
  | nil =>
    obtain ⟨fuel, rfl⟩ := Nat.exists_eq_succ_of_ne_zero (Nat.ne_of_gt hfuel)
    rfl
  | cons item items ih =>
    obtain ⟨fuel, rfl⟩ := Nat.exists_eq_succ_of_ne_zero (Nat.ne_of_gt (Nat.zero_lt_of_lt hfuel))
    obtain ⟨hread, character, tail, hcons, hblank, -⟩ := hitems item List.mem_cons_self
    have hmore := ih (fun item hmem => hitems item (List.mem_cons_of_mem _ hmem))
      (Nat.lt_of_succ_lt_succ hfuel)
    have htext : afterCommas ((item :: items).map write) ++ ']' :: rest =
        ',' :: (write item ++ (afterCommas (items.map write) ++ ']' :: rest)) := by
      simp [afterCommas]
    have hstart : nextItem false
        (',' :: (write item ++ (afterCommas (items.map write) ++ ']' :: rest))) =
        .ok (write item ++ (afterCommas (items.map write) ++ ']' :: rest)) := by
      rw [hcons, List.cons_append]
      exact congrArg Except.ok (skipBlanks_cons hblank _)
    rw [htext, List.mapM_cons]
    exact readElements_step rfl (by decide) hstart
      (hread _ (endsToken_afterCommas _ rest (.inl rfl))) hmore

/-- An array is read element by element, up to the first fault. -/
theorem reads_array {items : List Item}
    (hitems : ∀ item ∈ items, Reads read (write item) (outcome item) ∧
      BeginsToken (write item)) :
    Reads (readArray read) (array (items.map write)) (items.mapM outcome) := by
  intro rest _
  cases items with
  | nil => rfl
  | cons item items =>
    obtain ⟨hread, character, tail, hcons, hblank, hbracket⟩ := hitems item List.mem_cons_self
    have hitem := hread _ (endsToken_afterCommas (items.map write) rest (.inl rfl))
    have htext : array ((item :: items).map write) ++ rest =
        '[' :: (write item ++ (afterCommas (items.map write) ++ ']' :: rest)) := by
      simp [array, separated_cons]
    have hopen : ∀ text, skipBlanks ('[' :: text) = '[' :: text := fun _ => rfl
    have hfuel : items.length <
        (write item ++ (afterCommas (items.map write) ++ ']' :: rest)).length := by
      have := length_le_length_afterCommas (items.map write)
      simp only [List.length_map, List.length_append, List.length_cons] at this ⊢
      omega
    have hmore := readElements_afterCommas
      (fun item hmem => hitems item (List.mem_cons_of_mem _ hmem)) hfuel rest
    rw [htext, readArray, hopen, List.mapM_cons]
    rw [hcons, List.cons_append] at hitem hmore ⊢
    exact readElements_step hblank hbracket rfl hitem hmore

end Elements

/-! ## Objects -/

section Members

variable {Draft Value : Type}

/-- The drafts that the members of an object lead through, each member setting an empty field, up
to the first one that is read with a fault. -/
inductive ReadsMembers (fields : List (Field Draft)) :
    Draft → List (String × List Char) → Except Fault Draft → Prop
  | nil (draft : Draft) : ReadsMembers fields draft [] (.ok draft)
  | cons {draft next : Draft} {final : Except Fault Draft} {name : String} {text : List Char}
      {members : List (String × List Char)} (field : Field Draft)
      (hfind : fields.find? (fun field => field.name.toList = name.toList) = some field)
      (hunset : field.isSet draft = false) (hread : Reads (field.read draft) text (.ok next))
      (hmore : ReadsMembers fields next members final) :
      ReadsMembers fields draft ((name, text) :: members) final
  | fault {draft : Draft} {fault : Fault} {name : String} {text : List Char}
      {members : List (String × List Char)} (field : Field Draft)
      (hfind : fields.find? (fun field => field.name.toList = name.toList) = some field)
      (hunset : field.isSet draft = false) (hread : Reads (field.read draft) text (.error fault)) :
      ReadsMembers fields draft ((name, text) :: members) (.error fault)

section Field

variable {fields : List (Field Draft)} {Part : Type} {read : Reader Part} {name : String}
  {get : Draft → Option Part} {assign : Draft → Part → Draft} {hasDefault : Bool} {draft : Draft}
  {text : List Char} {members : List (String × List Char)}

/-- A member whose value is read back sets its part of the draft. -/
theorem ReadsMembers.set {final : Except Fault Draft} {part : Part}
    (hfind : fields.find? (fun field => field.name.toList = name.toList) =
      some (field name read get assign hasDefault))
    (habsent : get draft = none) (hread : ReadsBack read text part)
    (hmore : ReadsMembers fields (assign draft part) members final) :
    ReadsMembers fields draft ((name, text) :: members) final := by
  apply ReadsMembers.cons _ hfind (congrArg Option.isSome habsent) _ hmore
  intro rest hrest
  simp only [field, hread rest hrest, Except.map]

/-- A member whose value is read with a fault ends the reading of the object. -/
theorem ReadsMembers.stop {fault : Fault}
    (hfind : fields.find? (fun field => field.name.toList = name.toList) =
      some (field name read get assign hasDefault))
    (habsent : get draft = none) (hread : Reads read text (.error fault)) :
    ReadsMembers fields draft ((name, text) :: members) (.error fault) := by
  apply ReadsMembers.fault _ hfind (congrArg Option.isSome habsent)
  intro rest hrest
  simp only [field, hread rest hrest, Except.map]

end Field

/-- A member with a double either is read back or ends the reading of the object. -/
theorem ReadsMembers.double {fields : List (Field Draft)} {name : String}
    {get : Draft → Option Binary64} {assign : Draft → Binary64 → Draft} {hasDefault : Bool}
    {draft : Draft} {value : Binary64} {members : List (String × List Char)}
    (hfind : fields.find? (fun field => field.name.toList = name.toList) =
      some (field name readDouble get assign hasDefault))
    (habsent : get draft = none)
    (hmore : value.isFinite = true →
      ReadsMembers fields (assign draft value) members (.error .unfit)) :
    ReadsMembers fields draft ((name, Json.double value) :: members) (.error .unfit) := by
  cases hfinite : value.isFinite with
  | true => exact .set hfind habsent (readsBack_double hfinite) (hmore hfinite)
  | false => exact .stop hfind habsent (reads_double_of_not_finite hfinite)

theorem objectMember_append (name : String) (text rest : List Char) :
    objectMember (name, text) ++ rest =
      '"' :: (name.toList.flatMap escaped ++ '"' :: ':' :: (text ++ rest)) := by
  simp [objectMember, quoted]

/-- One turn of the loop, at a member that begins where `nextItem` says. -/
theorem readMembers_step {fields : List (Field Draft)} {field : Field Draft} {fuel : Nat}
    {first : Bool} {draft : Draft} {name : String} {character : Char} {text tail rest : List Char}
    (hblank : isBlank character = false) (hbrace : character ≠ '}')
    (hstart : nextItem first (character :: tail) = .ok (objectMember (name, text) ++ rest))
    (hfind : fields.find? (fun field => field.name.toList = name.toList) = some field)
    (hunset : field.isSet draft = false) :
    readMembers fields (fuel + 1) first draft (character :: tail) =
      (field.read draft (text ++ rest)).bind fun (next, rest) =>
        readMembers fields fuel false next rest := by
  have hmember : readMember fields draft name.toList (':' :: (text ++ rest)) =
      field.read draft (text ++ rest) := by
    have hcolon : skipColon (':' :: (text ++ rest)) = .ok (text ++ rest) := rfl
    simp only [readMember, hfind, hunset, Bool.false_eq_true, if_false, hcolon, bind, Except.bind]
  rw [objectMember_append] at hstart
  rw [readMembers, skipBlanks_cons hblank]
  split
  · next heq => exact absurd (List.cons.inj heq).1 hbrace
  · simp only [hstart, bind, Except.bind, readStringRest_escaped, hmember]

/-- The members behind the first one, and the closing brace. -/
theorem readMembers_afterCommas {fields : List (Field Draft)} {draft : Draft}
    {final : Except Fault Draft} {members : List (String × List Char)}
    (hmembers : ReadsMembers fields draft members final) {fuel : Nat}
    (hfuel : members.length < fuel) (rest : List Char) :
    readMembers fields fuel false draft (afterCommas (members.map objectMember) ++ '}' :: rest) =
      final.map fun draft => (draft, rest) := by
  have htext : ∀ name text (members : List (String × List Char)),
      afterCommas (((name, text) :: members).map objectMember) ++ '}' :: rest =
        ',' :: (objectMember (name, text) ++
          (afterCommas (members.map objectMember) ++ '}' :: rest)) := by
    intro name text members
    simp [afterCommas]
  induction hmembers generalizing fuel with
  | nil draft =>
    obtain ⟨fuel, rfl⟩ := Nat.exists_eq_succ_of_ne_zero (Nat.ne_of_gt hfuel)
    rfl
  | @cons draft next final name text members field hfind hunset hread _ ih =>
    obtain ⟨fuel, rfl⟩ := Nat.exists_eq_succ_of_ne_zero (Nat.ne_of_gt (Nat.zero_lt_of_lt hfuel))
    rw [htext, readMembers_step rfl (by decide) rfl hfind hunset,
      hread _ (endsToken_afterCommas _ rest (.inr rfl))]
    exact ih (Nat.lt_of_succ_lt_succ hfuel)
  | fault field hfind hunset hread =>
    obtain ⟨fuel, rfl⟩ := Nat.exists_eq_succ_of_ne_zero (Nat.ne_of_gt (Nat.zero_lt_of_lt hfuel))
    rw [htext, readMembers_step rfl (by decide) rfl hfind hunset,
      hread _ (endsToken_afterCommas _ rest (.inr rfl))]
    rfl

/-- The members of an object and the closing brace. -/
theorem readMembers_separated {fields : List (Field Draft)} {draft : Draft}
    {final : Except Fault Draft} {members : List (String × List Char)}
    (hmembers : ReadsMembers fields draft members final) {fuel : Nat}
    (hfuel : members.length < fuel) (rest : List Char) :
    readMembers fields fuel true draft (separated (members.map objectMember) ++ '}' :: rest) =
      final.map fun draft => (draft, rest) := by
  obtain ⟨fuel, rfl⟩ := Nat.exists_eq_succ_of_ne_zero (Nat.ne_of_gt (Nat.zero_lt_of_lt hfuel))
  have htext : ∀ name text (members : List (String × List Char)),
      separated (((name, text) :: members).map objectMember) ++ '}' :: rest =
        '"' :: (name.toList.flatMap escaped ++ '"' :: ':' ::
          (text ++ (afterCommas (members.map objectMember) ++ '}' :: rest))) := by
    intro name text members
    rw [List.map_cons, separated_cons, List.append_assoc, objectMember_append]
  have hstart : ∀ name text (rest : List Char),
      nextItem true ('"' :: (name.toList.flatMap escaped ++ '"' :: ':' :: (text ++ rest))) =
        .ok (objectMember (name, text) ++ rest) :=
    fun name text rest => congrArg Except.ok (objectMember_append name text rest).symm
  cases hmembers with
  | nil => rfl
  | cons field hfind hunset hread hmore =>
    rw [htext, readMembers_step rfl (by decide) (hstart _ _ _) hfind hunset,
      hread _ (endsToken_afterCommas _ rest (.inr rfl))]
    exact readMembers_afterCommas hmore (Nat.lt_of_succ_lt_succ hfuel) rest
  | fault field hfind hunset hread =>
    rw [htext, readMembers_step rfl (by decide) (hstart _ _ _) hfind hunset,
      hread _ (endsToken_afterCommas _ rest (.inr rfl))]
    rfl

theorem length_le_length_separated (texts : List (List Char)) :
    texts.length ≤ (separated texts).length + 1 := by
  cases texts with
  | nil => exact Nat.zero_le _
  | cons text more =>
    have := length_le_length_afterCommas more
    rw [separated_cons, List.length_cons, List.length_append]
    omega

/-- The fuel of an object is enough for its members. -/
theorem Record.read_object {record : Record Draft Value} {members : List (String × List Char)}
    {final : Except Fault Draft}
    (hmembers : ReadsMembers record.fields record.blank members final) (rest : List Char) :
    record.read (object members ++ rest) = final.bind fun draft =>
      match record.finish draft with
      | some value => .ok (value, rest)
      | none => .error .unfit := by
  have htext : object members ++ rest =
      '{' :: (separated (members.map objectMember) ++ '}' :: rest) := by
    simp [object]
  have hopen : ∀ text, skipBlanks ('{' :: text) = '{' :: text := fun _ => rfl
  have hfuel : members.length <
      (separated (members.map objectMember) ++ '}' :: rest).length + 1 := by
    have := length_le_length_separated (members.map objectMember)
    simp only [List.length_map, List.length_append, List.length_cons] at this ⊢
    omega
  rw [htext, Record.read, hopen]
  simp only [readMembers_separated hmembers hfuel, bind, Except.bind]
  cases final with
  | error fault => rfl
  | ok draft => rfl

/-- An object whose members fill a draft is read back as the record of that draft. -/
theorem Record.readsBack_object {record : Record Draft Value}
    {members : List (String × List Char)} {final : Draft} {value : Value}
    (hmembers : ReadsMembers record.fields record.blank members (.ok final))
    (hfinish : record.finish final = some value) :
    ReadsBack record.read (object members) value := by
  intro rest _
  rw [record.read_object hmembers]
  simp only [Except.bind, hfinish]

/-- An object with a member that is read with a fault is read with this fault. -/
theorem Record.reads_fault {record : Record Draft Value} {members : List (String × List Char)}
    {fault : Fault} (hmembers : ReadsMembers record.fields record.blank members (.error fault)) :
    Reads record.read (object members) (.error fault) := by
  intro rest _
  rw [record.read_object hmembers]
  rfl

end Members

end MangaRecommender.Json
