import Mathlib
import MangaRecommender.Proofs.Generator.Query

/-!
# Profiles of disjoint seeds

The rows about seeds are those of a table that name one of them, in the order of the table.  If the
seeds are split in two, each of these rows belongs to one part, so that the rows about all of them
interleave the rows about the parts.  Whatever a profile keeps of its rows is then put together from
the profiles of the parts: counts are added, sets are united, and lists are interleaved.  Since rows
are looked up by membership, a seed that is listed again adds nothing.
-/

namespace MangaRecommender

/-! ## Interleaved lists -/

/-- The third list is made of the other two, which keep their order in it. -/
inductive Interleaves {Value : Type} : List Value → List Value → List Value → Prop
  | nil : Interleaves [] [] []
  | left {value : Value} {first second whole : List Value} :
      Interleaves first second whole → Interleaves (value :: first) second (value :: whole)
  | right {value : Value} {first second whole : List Value} :
      Interleaves first second whole → Interleaves first (value :: second) (value :: whole)

namespace Interleaves

variable {Value Image : Type} {first second whole : List Value}

theorem perm (hwhole : Interleaves first second whole) : whole.Perm (first ++ second) := by
  induction hwhole with
  | nil => exact .refl _
  | left _ ih => exact ih.cons _
  | right _ ih => exact (ih.cons _).trans List.perm_middle.symm

theorem filterMap (image : Value → Option Image) (hwhole : Interleaves first second whole) :
    Interleaves (first.filterMap image) (second.filterMap image) (whole.filterMap image) := by
  induction hwhole with
  | nil => exact .nil
  | @left value _ _ _ _ ih =>
    cases himage : image value with
    | none => simpa only [List.filterMap_cons_none himage] using ih
    | some _ => simpa only [List.filterMap_cons_some himage] using ih.left
  | @right value _ _ _ _ ih =>
    cases himage : image value with
    | none => simpa only [List.filterMap_cons_none himage] using ih
    | some _ => simpa only [List.filterMap_cons_some himage] using ih.right

/-- Rows that each belong to one of two disjoint parts, or to none, are told apart by their part. -/
theorem filter_append {first second : List Int32} (hdisjoint : first.Disjoint second)
    (owner : Value → Int32) (rows : List Value) :
    Interleaves (rows.filter fun row => first.contains (owner row))
      (rows.filter fun row => second.contains (owner row))
      (rows.filter fun row => (first ++ second).contains (owner row)) := by
  induction rows with
  | nil => exact .nil
  | cons row rows ih =>
    by_cases hfirst : owner row ∈ first
    · have hsecond : owner row ∉ second := fun hsecond => hdisjoint hfirst hsecond
      simpa [hfirst, hsecond] using ih.left
    · by_cases hsecond : owner row ∈ second
      · simpa [hfirst, hsecond] using ih.right
      · simpa [hfirst, hsecond] using ih

end Interleaves

/-! ## What a profile keeps -/

/-- Counts are added, in 32 bits; no sum overflows if the rows that were counted are few enough. -/
structure Frequencies.IsSum (rows : Nat) (first second whole : Frequencies) : Prop where
  count : ∀ wanted, whole.count wanted = first.count wanted + second.count wanted
  toNat_count : rows < UInt32.size → ∀ wanted,
    (whole.count wanted).toNat = (first.count wanted).toNat + (second.count wanted).toNat

/-- The profile holds what two others hold together. -/
structure Profile.IsSum (rows : Profile.Rows) (first second whole : Profile) : Prop where
  genres : Frequencies.IsSum rows.genres.length first.genres second.genres whole.genres
  tags : Frequencies.IsSum rows.tags.length first.tags second.tags whole.tags
  demographics : Frequencies.IsSum rows.demographics.length first.demographics
    second.demographics whole.demographics
  authors : ∀ author, whole.authors.contains author =
    (first.authors.contains author || second.authors.contains author)
  ratings : Interleaves first.ratings second.ratings whole.ratings
  ratings_perm : whole.ratings.Perm (first.ratings ++ second.ratings)
  years : Interleaves first.years second.years whole.years
  years_perm : whole.years.Perm (first.years ++ second.years)
  isClassifiable : whole.isClassifiable = (first.isClassifiable || second.isClassifiable)

theorem Frequencies.isSum_ofList {first second whole : List Int32}
    (hwhole : whole.Perm (first ++ second)) :
    IsSum whole.length (ofList first) (ofList second) (ofList whole) := by
  have hcount : ∀ wanted, whole.count wanted = first.count wanted + second.count wanted := by
    intro wanted
    rw [hwhole.count_eq, List.count_append]
  constructor
  · intro wanted
    rw [count_ofList, count_ofList, count_ofList, hcount, UInt32.ofNat_add]
  · intro hfew wanted
    have hle : whole.count wanted ≤ whole.length := List.count_le_length
    have hsum := hcount wanted
    rw [count_ofList, count_ofList, count_ofList, UInt32.toNat_ofNat_of_lt' (hle.trans_lt hfew),
      UInt32.toNat_ofNat_of_lt' (by omega), UInt32.toNat_ofNat_of_lt' (by omega), hsum]

variable {tables : Tables} {first second : List Int32}

theorem Tables.interleaves_links (tables : Tables) (kind : AttributeKind)
    (hdisjoint : first.Disjoint second) :
    Interleaves (((tables.links kind).filter fun link => first.contains link.1).map Prod.snd)
      (((tables.links kind).filter fun link => second.contains link.1).map Prod.snd)
      (((tables.links kind).filter fun link => (first ++ second).contains link.1).map Prod.snd) := by
  simp only [← List.filterMap_eq_map]
  exact (Interleaves.filter_append hdisjoint Prod.fst _).filterMap _

theorem Tables.isSum_seedAttributes (tables : Tables) (kind : AttributeKind)
    (hdisjoint : first.Disjoint second) :
    Frequencies.IsSum
      ((tables.links kind).filter fun link => (first ++ second).contains link.1).length
      (tables.seedAttributes first kind) (tables.seedAttributes second kind)
      (tables.seedAttributes (first ++ second) kind) := by
  have hsum := Frequencies.isSum_ofList (tables.interleaves_links kind hdisjoint).perm
  rwa [List.length_map] at hsum

theorem Tables.areClassified_append :
    tables.AreClassified (first ++ second) ↔
      tables.AreClassified first ∨ tables.AreClassified second := by
  simp only [AreClassified, HasAttribute, List.mem_append, or_and_right, exists_or, and_or_left]

theorem Profile.isSum_ofRows (tables : Tables) (hdisjoint : first.Disjoint second) :
    IsSum (tables.rowsOf (first ++ second)) (ofRows (tables.rowsOf first))
      (ofRows (tables.rowsOf second)) (ofRows (tables.rowsOf (first ++ second))) := by
  have hratings : Interleaves (ofRows (tables.rowsOf first)).ratings
      (ofRows (tables.rowsOf second)).ratings (ofRows (tables.rowsOf (first ++ second))).ratings := by
    simp only [ofRows, Tables.rowsOf, List.filterMap_map]
    exact (Interleaves.filter_append hdisjoint Manga.id _).filterMap _
  have hyears : Interleaves (ofRows (tables.rowsOf first)).years
      (ofRows (tables.rowsOf second)).years (ofRows (tables.rowsOf (first ++ second))).years := by
    simp only [ofRows, Tables.rowsOf, List.filterMap_map]
    exact (Interleaves.filter_append hdisjoint Manga.id _).filterMap _
  refine ⟨tables.isSum_seedAttributes .genre hdisjoint, tables.isSum_seedAttributes .tag hdisjoint,
    tables.isSum_seedAttributes .demographic hdisjoint, ?_, hratings, hratings.perm, hyears,
    hyears.perm, ?_⟩
  · intro author
    have hmem := (tables.interleaves_links .author hdisjoint).perm.mem_iff (a := author)
    rw [List.mem_append] at hmem
    rw [Bool.eq_iff_iff, Bool.or_eq_true]
    exact IdSet.contains_ofList.trans
      (hmem.trans (or_congr IdSet.contains_ofList.symm IdSet.contains_ofList.symm))
  · rw [Bool.eq_iff_iff, Bool.or_eq_true]
    simp only [isClassifiable_iff_areClassified, Tables.areClassified_append]

/-! ## Seeds that are listed again, and attributes that are not there -/

theorem Tables.rowsOf_congr (hsame : ∀ seed, seed ∈ first ↔ seed ∈ second) :
    tables.rowsOf first = tables.rowsOf second := by
  have hcontains : ∀ seed, first.contains seed = second.contains seed := by
    intro seed
    rw [List.contains_eq_mem, List.contains_eq_mem]
    exact decide_eq_decide.2 (hsame seed)
  simp only [rowsOf, hcontains]

theorem Tables.count_seedAttributes_of_absent {seeds : List Int32} {kind : AttributeKind}
    {wanted : Int32} (habsent : ¬tables.HasAttribute seeds kind wanted) :
    (tables.seedAttributes seeds kind).count wanted = 0 := by
  rw [seedAttributes, Frequencies.count_ofList, List.count_eq_zero.2]
  · rfl
  · rw [← Frequencies.mem_ids_ofList]
    exact mt mem_seedAttributes.1 habsent

/-- How the profiles of different seeds in the same tables hang together. -/
structure Profile.BuildsAdditively (tables : Tables) : Prop where
  append : ∀ first second, first.Disjoint second → ∃ left right whole,
    (build (tables.repository .none) first).result = .ok left ∧
    (build (tables.repository .none) second).result = .ok right ∧
    (build (tables.repository .none) (first ++ second)).result = .ok whole ∧
    IsSum (tables.rowsOf (first ++ second)) left right whole
  /-- It does not matter in which order and how often the seeds are listed. -/
  listed : ∀ first second, (∀ seed, seed ∈ first ↔ seed ∈ second) →
    (build (tables.repository .none) first).result =
      (build (tables.repository .none) second).result
  absent : ∀ seeds, ∃ profile, (build (tables.repository .none) seeds).result = .ok profile ∧
    ∀ wanted,
      (¬tables.HasAttribute seeds .genre wanted → profile.genres.count wanted = 0) ∧
      (¬tables.HasAttribute seeds .tag wanted → profile.tags.count wanted = 0) ∧
      (¬tables.HasAttribute seeds .demographic wanted → profile.demographics.count wanted = 0)

/-- Whatever the tables hold, the profile of two disjoint lists of seeds is the sum of their
profiles. -/
theorem profiles_additive (tables : Tables) : Profile.BuildsAdditively tables where
  append first second hdisjoint :=
    ⟨_, _, _, Profile.result_build tables first, Profile.result_build tables second,
      Profile.result_build tables (first ++ second), Profile.isSum_ofRows tables hdisjoint⟩
  listed first second hsame := by
    rw [Profile.result_build, Profile.result_build, Tables.rowsOf_congr hsame]
  absent seeds :=
    ⟨_, Profile.result_build tables seeds, fun _ => ⟨Tables.count_seedAttributes_of_absent,
      Tables.count_seedAttributes_of_absent, Tables.count_seedAttributes_of_absent⟩⟩

/-- Three rated manga of a genre, of which one is linked to it twice, and another genre and a
demographic of the last one. -/
def threeOfAGenre : Tables where
  manga := [⟨2, "Second", some .nan, none, none⟩, ⟨1, "First", some (.infinity true), none, none⟩,
    ⟨3, "Third", some .nan, none, none⟩]
  links
    | .genre => [(2, 5), (1, 5), (3, 5), (1, 5), (3, 6)]
    | .demographic => [(3, 7)]
    | .tag | .author => []
  collections := []
  fixedCandidates := none

theorem profiles_additive_threeOfAGenre :
    ([1] : List Int32).Disjoint [2, 3] ∧ ∃ left right whole,
      (Profile.build (threeOfAGenre.repository .none) [1]).result = .ok left ∧
      (Profile.build (threeOfAGenre.repository .none) [2, 3]).result = .ok right ∧
      (Profile.build (threeOfAGenre.repository .none) [1, 2, 3]).result = .ok whole ∧
      left.genres.count 5 = 2 ∧ right.genres.count 5 = 2 ∧ whole.genres.count 5 = 4 ∧
      left.demographics.count 7 = 0 ∧ right.demographics.count 7 = 1 ∧
      whole.demographics.count 7 = 1 ∧
      left.ratings = [.infinity true] ∧ right.ratings = [.nan, .nan] ∧
      whole.ratings.Perm [.infinity true, .nan, .nan] ∧ whole.isClassifiable = true := by
  have hdisjoint : ([1] : List Int32).Disjoint [2, 3] :=
    List.singleton_disjoint.2 (by decide)
  obtain ⟨left, right, whole, hleft, hright, hwhole, hsum⟩ :=
    (profiles_additive threeOfAGenre).append [1] [2, 3] hdisjoint
  obtain rfl := Except.ok.inj ((Profile.result_build threeOfAGenre [1]).symm.trans hleft)
  obtain rfl := Except.ok.inj ((Profile.result_build threeOfAGenre [2, 3]).symm.trans hright)
  refine ⟨hdisjoint, _, _, whole, hleft, hright, hwhole, rfl, rfl, ?_, rfl, rfl, ?_, rfl, rfl, ?_,
    ?_⟩
  · rw [hsum.genres.count]
    rfl
  · rw [hsum.demographics.count]
    rfl
  · exact hsum.ratings_perm
  · rw [hsum.isClassifiable]
    rfl

end MangaRecommender
