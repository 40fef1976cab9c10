import Mathlib
import MangaRecommender.Proofs.Cache.ReadThrough
import MangaRecommender.Proofs.Document.ScoredManga
import MangaRecommender.Service

/-!
# What becomes of remembered items

Any list of items can be remembered, whatever its doubles are.  The text that is kept for it can
be read again exactly if the score of every item and the six terms of the score are finite.  A
rating has the null to fall back on, so it comes back absent where it was infinite or not a
number.
-/

namespace MangaRecommender

theorem Binary64.isFinite_eq (value : Binary64) :
    value.isFinite = (!value.isNaN && !value.isInfinite) := by
  rw [isFinite, isNaN, isInfinite, ← decide_not, ← decide_not, ← Bool.decide_and,
    decide_eq_decide]
  omega

namespace ScoredManga

theorem hasFiniteScore_iff_not_nan_or_infinite {item : ScoredManga} :
    item.HasFiniteScore ↔
      ∀ value ∈ item.doubles, value.isNaN = false ∧ value.isInfinite = false := by
  simp only [hasFiniteScore_iff, Binary64.isFinite_eq, Bool.and_eq_true, Bool.not_eq_true']

theorem storedForm_eq (item : ScoredManga) :
    item.storedForm =
      { item with rating :=
          item.rating.filter fun rating => !rating.isNaN && !rating.isInfinite } := by
  rw [storedForm, funext Binary64.isFinite_eq]

end ScoredManga

namespace Service

/-- A cache that does not fail keeps the text of the items. -/
theorem get?_remember (store : PayloadStore) (key : CacheKey) (items : List ScoredManga) :
    (remember ⟨store, []⟩ key items).store.get? key.text =
      some (ScoredManga.encodeList items) := by
  rw [remember, Cache.get?_write, if_pos ⟨List.not_mem_nil, rfl⟩]

/-- The text that is kept for a list of items is unreadable exactly if the score of an item, or a
term of it, is infinite or not a number.  Otherwise the same items are read in the same order, with
every field as it was, except that a rating which is infinite or not a number is absent. -/
theorem decodeList?_remembered (store : PayloadStore) (key : CacheKey)
    (items : List ScoredManga) :
    ∃ payload, (remember ⟨store, []⟩ key items).store.get? key.text = some payload ∧
      ScoredManga.decodeList? payload =
        if ∃ item ∈ items, ∃ value ∈ item.doubles,
            value.isNaN = true ∨ value.isInfinite = true then none
        else some (items.map fun item =>
          { item with rating :=
              item.rating.filter fun rating => !rating.isNaN && !rating.isInfinite }) := by
  refine ⟨ScoredManga.encodeList items, get?_remember store key items, ?_⟩
  have hfinite : (∀ item ∈ items, item.HasFiniteScore) ↔ ¬∃ item ∈ items,
      ∃ value ∈ item.doubles, value.isNaN = true ∨ value.isInfinite = true := by
    simp only [ScoredManga.hasFiniteScore_iff_not_nan_or_infinite, not_exists, not_and, not_or,
      Bool.not_eq_true]
  rw [ScoredManga.decodeList?_encodeList_eq]
  split
  · next hall =>
    rw [if_neg (hfinite.1 hall)]
    exact congrArg some (List.map_congr_left fun item _ => ScoredManga.storedForm_eq item)
  · next hnot => rw [if_pos (not_not.1 fun hnone => hnot (hfinite.2 hnone))]

end Service

end MangaRecommender
