import MangaRecommender.Binary64.Basic

/-!
# The total order of doubles

Every double has a rank among the integers: negative ones by descending magnitude below zero,
the others by magnitude. The order of the ranks is the standard's total order, in which the
negative zero precedes the positive one and a positive NaN follows infinity.
-/

namespace MangaRecommender.Binary64

def rank (value : Binary64) : Int :=
  if value.negative then -(value.magnitude : Int) - 1 else (value.magnitude : Int)

theorem rank_injective {left right : Binary64} (h : left.rank = right.rank) : left = right := by
  obtain ⟨leftNegative, leftMagnitude, _⟩ := left
  obtain ⟨rightNegative, rightMagnitude, _⟩ := right
  cases leftNegative <;> cases rightNegative <;> simp [rank] at h ⊢ <;> omega

def totalCompare (left right : Binary64) : Ordering := compare left.rank right.rank

end MangaRecommender.Binary64
