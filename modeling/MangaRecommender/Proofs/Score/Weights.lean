import Mathlib
import MangaRecommender.Proofs.Profile.Multiset
import MangaRecommender.Proofs.Score.Terms

/-!
# Weights that 32 bits can hold

Counts and weights are added in 32 bits.  Attributes that are asked for repeatedly could weigh
more than these hold, but an index lists the attributes of a manga once each.  The counts of
distinct attributes together are no more than all that was recorded, and so is every sum on the
way.
-/

namespace MangaRecommender

namespace Frequencies.IsBuiltFrom

variable {frequencies : Frequencies} {recorded asked : List Int32}

/-- Distinct attributes share what was recorded between them. -/
theorem sum_count_le (hbuilt : frequencies.IsBuiltFrom recorded)
    (hfew : recorded.length < 2 ^ 32) (hnodup : asked.Nodup) :
    (asked.map fun id => (frequencies.count id).toNat).sum ≤ recorded.length := by
  simp only [hbuilt.toNat_count hfew]
  rw [sum_map_count hnodup]
  exact List.countP_le_length

theorem toNat_weightOf_of_nodup (hbuilt : frequencies.IsBuiltFrom recorded)
    (hfew : recorded.length < 2 ^ 32) (hnodup : asked.Nodup) :
    (frequencies.weightOf asked).toNat = (asked.map fun id => (frequencies.count id).toNat).sum := by
  simp only [hbuilt.toNat_count hfew]
  rw [sum_map_count hnodup, hbuilt.eq_ofList, Frequencies.toNat_weightOf hnodup hfew]

/-- The next attribute can still be counted. -/
theorem increment_lt {earlier : List Int32} {id : Int32} {part : Frequencies}
    (hpart : part.IsBuiltFrom earlier) (hfew : recorded.length < 2 ^ 32)
    (hnext : earlier ++ [id] <+: recorded) : (part.count id).toNat + 1 < 2 ^ 32 := by
  have hlength : earlier.length + 1 ≤ recorded.length := by
    simpa only [List.length_append, List.length_singleton] using hnext.length_le
  have hcount : earlier.count id ≤ earlier.length := List.count_le_length
  rw [hpart.toNat_count (by omega)]
  omega

/-- The next count can still be added. -/
theorem addition_lt (hbuilt : frequencies.IsBuiltFrom recorded)
    (hfew : recorded.length < 2 ^ 32) (hnodup : asked.Nodup) {earlier : List Int32} {id : Int32}
    (hnext : earlier ++ [id] <+: asked) :
    (frequencies.weightOf earlier).toNat + (frequencies.count id).toNat < 2 ^ 32 := by
  have hdistinct : (earlier ++ [id]).Nodup := hnodup.sublist hnext.sublist
  calc (frequencies.weightOf earlier).toNat + (frequencies.count id).toNat
      = ((earlier ++ [id]).map fun id => (frequencies.count id).toNat).sum := by
        rw [hbuilt.toNat_weightOf_of_nodup hfew (List.nodup_append.1 hdistinct).1]
        simp
    _ ≤ recorded.length := hbuilt.sum_count_le hfew hdistinct
    _ < 2 ^ 32 := hfew

end Frequencies.IsBuiltFrom

/-! ## The weights of a manga -/

/-- The genres, tags and demographics of a profile were recorded in these rows. -/
structure Profile.IsCountedFrom (rows : AttributeKind → List Int32) (profile : Profile) :
    Prop where
  genres : profile.genres.IsBuiltFrom (rows .genre)
  tags : profile.tags.IsBuiltFrom (rows .tag)
  demographics : profile.demographics.IsBuiltFrom (rows .demographic)

/-- The genres, tags and demographics of the candidates were indexed from these links. -/
structure Features.IsIndexedFrom (links : AttributeKind → List Link) (features : Features) :
    Prop where
  genres : features.genres = .ofLinks (links .genre)
  tags : features.tags = .ofLinks (links .tag)
  demographics : features.demographics = .ofLinks (links .demographic)

/-- What is counted and added up for the points of a manga for one kind of attributes stays within
32 bits, all along. -/
structure WeighsExactly (recorded : List Int32) (links : List Link) (frequencies : Frequencies)
    (index : AttributeIndex) (manga : Int32) (weight points : Binary64) : Prop where
  ascending : (index.attributesOf manga).Pairwise (· < ·)
  nodup : (index.attributesOf manga).Nodup
  mem_iff : ∀ id, id ∈ index.attributesOf manga ↔ (manga, id) ∈ links
  sum_le : ((index.attributesOf manga).map fun id => (frequencies.count id).toNat).sum ≤
    recorded.length
  /-- Whenever a row was recorded, its attribute could be counted. -/
  increment_lt : ∀ earlier id part, earlier ++ [id] <+: recorded →
    Frequencies.IsBuiltFrom part earlier → (part.count id).toNat + 1 < 2 ^ 32
  /-- Whenever an attribute is weighed, its count can be added to those before it. -/
  addition_lt : ∀ earlier id, earlier ++ [id] <+: index.attributesOf manga →
    (frequencies.weightOf earlier).toNat + (frequencies.count id).toNat < 2 ^ 32
  /-- The points are those for the sum of the counts. -/
  points_eq : points =
    .ofNat ((index.attributesOf manga).map fun id => (frequencies.count id).toNat).sum * weight

theorem weighsExactly_attributeTerm {recorded : List Int32} {frequencies : Frequencies}
    (hbuilt : frequencies.IsBuiltFrom recorded) (hfew : recorded.length < 2 ^ 32)
    (links : List Link) (manga : Int32) (weight : Binary64) :
    WeighsExactly recorded links frequencies (.ofLinks links) manga weight
      (Score.attributeTerm weight frequencies
        ((AttributeIndex.ofLinks links).attributesOf manga)) where
  ascending := AttributeIndex.ascending_attributesOf _ manga
  nodup := AttributeIndex.nodup_attributesOf _ manga
  mem_iff _ := AttributeIndex.mem_attributesOf_ofLinks
  sum_le := hbuilt.sum_count_le hfew (AttributeIndex.nodup_attributesOf _ manga)
  increment_lt _ _ _ hnext hpart := hpart.increment_lt hfew hnext
  addition_lt _ _ hnext := hbuilt.addition_lt hfew (AttributeIndex.nodup_attributesOf _ manga) hnext
  points_eq := by
    rw [Score.attributeTerm,
      hbuilt.toNat_weightOf_of_nodup hfew (AttributeIndex.nodup_attributesOf _ manga)]

/-- Whatever links the candidates have, no increment of a count and no sum of counts leaves 32 bits
if the seeds have few enough rows of each kind. -/
theorem attribute_weights_fit_word {profile : Profile} {rows : AttributeKind → List Int32}
    (hprofile : profile.IsCountedFrom rows)
    (hfew : ∀ kind, kind ≠ .author → (rows kind).length < 2 ^ 32) {features : Features}
    {links : AttributeKind → List Link} (hfeatures : features.IsIndexedFrom links)
    (averageRating : Option Binary64) (averageYear : Option Int32) (manga : Manga) :
    let details := Score.details features profile averageRating averageYear manga
    WeighsExactly (rows .genre) (links .genre) profile.genres features.genres manga.id
        Score.genreWeight details.genre ∧
      WeighsExactly (rows .tag) (links .tag) profile.tags features.tags manga.id
        Score.tagWeight details.tag ∧
      WeighsExactly (rows .demographic) (links .demographic) profile.demographics
        features.demographics manga.id Score.demographicWeight details.demographic := by
  obtain ⟨hgenres, htags, hdemographics⟩ := hfeatures
  refine ⟨?_, ?_, ?_⟩
  · rw [hgenres, Score.details, hgenres]
    exact weighsExactly_attributeTerm hprofile.genres (hfew .genre (by decide)) _ _ _
  · rw [htags, Score.details, htags]
    exact weighsExactly_attributeTerm hprofile.tags (hfew .tag (by decide)) _ _ _
  · rw [hdemographics, Score.details, hdemographics]
    exact weighsExactly_attributeTerm hprofile.demographics (hfew .demographic (by decide)) _ _ _

/-- Seeds with one genre in two of three rows, and a demographic that was recorded later. -/
def threeGenreRows : Profile where
  genres := .ofList [5, 6, 5]
  tags := .empty
  demographics := Frequencies.record .empty 9
  authors := .empty
  ratings := []
  years := []

/-- Candidates with the same links of every kind, one of them repeated. -/
def repeatedFeatures : Features :=
  let index := AttributeIndex.ofLinks [(2, 5), (3, 6), (2, 5), (2, 9)]
  ⟨index, index, index, index⟩

theorem attribute_weights_fit_word_repeatedLink :
    let rows := fun kind => match kind with
      | AttributeKind.genre => [5, 6, 5]
      | .demographic => [9]
      | .tag | .author => []
    threeGenreRows.IsCountedFrom rows ∧
      (∀ kind, kind ≠ AttributeKind.author → (rows kind).length < 2 ^ 32) ∧
      (repeatedFeatures.IsIndexedFrom fun _ => [(2, 5), (3, 6), (2, 5), (2, 9)]) ∧
      let details := Score.details repeatedFeatures threeGenreRows none none
        ⟨2, "Second", none, none, none⟩
      details.genre = .ofNat 2 * Score.genreWeight ∧ details.tag = .ofNat 0 * Score.tagWeight ∧
        details.demographic = .ofNat 1 * Score.demographicWeight := by
  intro rows
  have hprofile : threeGenreRows.IsCountedFrom rows :=
    ⟨.ofList [5, 6, 5], .empty, .record 9 .empty⟩
  have hfew : ∀ kind, kind ≠ AttributeKind.author → (rows kind).length < 2 ^ 32 := by
    intro kind _
    cases kind <;> decide
  have hfeatures : repeatedFeatures.IsIndexedFrom fun _ => [(2, 5), (3, 6), (2, 5), (2, 9)] :=
    ⟨rfl, rfl, rfl⟩
  obtain ⟨hgenre, htag, hdemographic⟩ := attribute_weights_fit_word hprofile hfew hfeatures none none
    ⟨2, "Second", none, none, none⟩
  exact ⟨hprofile, hfew, hfeatures, hgenre.points_eq, htag.points_eq, hdemographic.points_eq⟩

end MangaRecommender
