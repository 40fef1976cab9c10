import Mathlib
import MangaRecommender.Page.Order
import MangaRecommender.Proofs.Binary64.TotalOrder
import MangaRecommender.Proofs.Page.Cuts

/-!
# The order of a list is its stable order by two keys

Items are compared by two keys, of which the second one is the title in lower case.  Each key has a
linear order, so that items which may stand on either side of each other have the same keys.  The
ordered list ascends or descends in the lexicographic order of the keys and keeps items of the same
keys as they were given.  No other list does both.
-/

namespace MangaRecommender

/-! ## Keys -/

namespace SortField

/-- What a field compares first: the place of a double, a title, or the place of a double that may
be missing and is below all others then. -/
def PrimaryKey : SortField → Type
  | score => ℤ
  | title => String
  | rating => WithBot ℤ

instance (field : SortField) : LinearOrder field.PrimaryKey :=
  match field with
  | score => inferInstanceAs (LinearOrder ℤ)
  | title => inferInstanceAs (LinearOrder String)
  | rating => inferInstanceAs (LinearOrder (WithBot ℤ))

/-- The place of a rating, if there is one. -/
def ratingPlace : Option Binary64 → WithBot ℤ
  | none => ⊥
  | some double => (double.rank : ℤ)

def primaryKey : (field : SortField) → ScoredManga → field.PrimaryKey
  | score, item => item.score.rank
  | title, item => Text.lowercase item.title
  | rating, item => ratingPlace item.rating

/-- Both keys, in lexicographic order. -/
def key (field : SortField) (item : ScoredManga) : field.PrimaryKey ×ₗ String :=
  toLex (field.primaryKey item, Text.lowercase item.title)

theorem compareTitles_compares (left right : ScoredManga) :
    (compareTitles left right).Compares (Text.lowercase left.title)
      (Text.lowercase right.title) :=
  (compare_iff _ _).1 rfl

theorem compareRatings_compares (left right : Option Binary64) :
    (compareRatings left right).Compares (ratingPlace left) (ratingPlace right) := by
  cases left with
  | none =>
    cases right with
    | none => exact rfl
    | some right => exact WithBot.bot_lt_coe right.rank
  | some left =>
    cases right with
    | none => exact WithBot.bot_lt_coe left.rank
    | some right =>
      have hranks : (left.totalCompare right).Compares left.rank right.rank := (compare_iff _ _).1 rfl
      rw [compareRatings, ratingPlace, ratingPlace]
      cases hcompare : left.totalCompare right <;> rw [hcompare] at hranks
      · exact WithBot.coe_lt_coe.2 hranks
      · exact congrArg WithBot.some hranks
      · exact WithBot.coe_lt_coe.2 hranks

theorem comparePrimary_compares (field : SortField) (left right : ScoredManga) :
    (field.comparePrimary left right).Compares (field.primaryKey left)
      (field.primaryKey right) := by
  cases field with
  | score => exact (compare_iff left.score.rank right.score.rank).1 rfl
  | title => exact compareTitles_compares left right
  | rating => exact compareRatings_compares left.rating right.rating

/-- Items compare as their keys do. -/
theorem compareItems_compares (field : SortField) (left right : ScoredManga) :
    (field.compareItems left right).Compares (field.key left) (field.key right) := by
  have hprimary := comparePrimary_compares field left right
  have htitle := compareTitles_compares left right
  rw [compareItems, key, key]
  cases hfirst : field.comparePrimary left right <;> rw [hfirst] at hprimary
  case lt => exact Prod.Lex.toLex_lt_toLex.2 (.inl hprimary)
  case gt => exact Prod.Lex.toLex_lt_toLex.2 (.inl hprimary)
  case eq =>
    have hsame : field.primaryKey left = field.primaryKey right := hprimary
    cases hsecond : compareTitles left right <;> rw [hsecond] at htitle
    case lt => exact Prod.Lex.toLex_lt_toLex.2 (.inr ⟨hsame, htitle⟩)
    case eq => exact congrArg toLex (Prod.ext hsame htitle)
    case gt => exact Prod.Lex.toLex_lt_toLex.2 (.inr ⟨hsame.symm, htitle⟩)

end SortField

/-! ## Precedence -/

/-- One key stands before or with another. -/
def SortDirection.AtMost {Key : Type} [LE Key] (direction : SortDirection) (left right : Key) :
    Prop :=
  match direction with
  | ascending => left ≤ right
  | descending => right ≤ left

section Precedence

variable {field : SortField} {direction : SortDirection} {left middle right : ScoredManga}

theorem mayPrecede_iff :
    mayPrecede field direction left right = true ↔
      direction.AtMost (field.key left) (field.key right) := by
  have hcompares := field.compareItems_compares left right
  rw [mayPrecede, Ordering.isLE_iff_ne_gt]
  cases direction with
  | ascending => exact hcompares.ne_gt
  | descending => exact (Ordering.compares_swap.2 hcompares).ne_gt

theorem mayPrecede_of_key_eq (hkey : field.key left = field.key right) :
    mayPrecede field direction left right = true := by
  rw [mayPrecede_iff, hkey]
  cases direction <;> exact le_rfl

theorem mayPrecede_total (left right : ScoredManga) :
    mayPrecede field direction left right = true ∨ mayPrecede field direction right left = true := by
  simp only [mayPrecede_iff]
  cases direction
  case ascending => exact le_total _ _
  case descending => exact le_total _ _

theorem mayPrecede_or (left right : ScoredManga) :
    (mayPrecede field direction left right || mayPrecede field direction right left) = true :=
  (Bool.or_eq_true _ _).mpr (mayPrecede_total left right)

theorem mayPrecede_trans (hleft : mayPrecede field direction left middle = true)
    (hright : mayPrecede field direction middle right = true) :
    mayPrecede field direction left right = true := by
  rw [mayPrecede_iff] at *
  cases direction
  case ascending => exact le_trans hleft hright
  case descending => exact le_trans hright hleft

/-- Items that may stand on either side of each other have the same keys. -/
theorem key_eq_of_mayPrecede (hleft : mayPrecede field direction left right = true)
    (hright : mayPrecede field direction right left = true) : field.key left = field.key right := by
  rw [mayPrecede_iff] at hleft hright
  cases direction
  case ascending => exact le_antisymm hleft hright
  case descending => exact le_antisymm hright hleft

end Precedence

/-- The comparison of items is that of their keys, and so a total preorder in either direction. -/
structure IsPreordered (field : SortField) (direction : SortDirection) : Prop where
  compares : ∀ left right,
    (field.compareItems left right).Compares (field.key left) (field.key right)
  follows : ∀ left right, mayPrecede field direction left right = true ↔
    direction.AtMost (field.key left) (field.key right)
  total : ∀ left right, mayPrecede field direction left right = true ∨
    mayPrecede field direction right left = true
  trans : ∀ left middle right, mayPrecede field direction left middle = true →
    mayPrecede field direction middle right = true → mayPrecede field direction left right = true
  antisymm : ∀ left right, mayPrecede field direction left right = true →
    mayPrecede field direction right left = true → field.key left = field.key right

theorem isPreordered (field : SortField) (direction : SortDirection) :
    IsPreordered field direction where
  compares := field.compareItems_compares
  follows _ _ := mayPrecede_iff
  total := mayPrecede_total
  trans _ _ _ := mayPrecede_trans
  antisymm _ _ := key_eq_of_mayPrecede

/-! ## Stable order -/

/-- A list is a rearrangement of items in the order of their keys, and among items of the same keys
nothing is rearranged. -/
structure IsStableOrder (field : SortField) (direction : SortDirection)
    (items arranged : List ScoredManga) : Prop where
  perm : arranged.Perm items
  ordered : arranged.Pairwise fun left right => direction.AtMost (field.key left) (field.key right)
  stable : ∀ keys, arranged.filter (fun item => decide (field.key item = keys)) =
    items.filter fun item => decide (field.key item = keys)

section StableOrder

variable {field : SortField} {direction : SortDirection} {items : List ScoredManga}

theorem pairwise_sortItems :
    (sortItems field direction items).Pairwise fun left right =>
      mayPrecede field direction left right = true := by
  refine List.pairwise_mergeSort ?_ mayPrecede_or items
  exact fun left middle right hleft hright => mayPrecede_trans hleft hright

/-- The items of the same keys are in order anyway, so they stay a part of the ordered list. -/
theorem filter_sortItems (keys : field.PrimaryKey ×ₗ String) :
    (sortItems field direction items).filter (fun item => decide (field.key item = keys)) =
      items.filter fun item => decide (field.key item = keys) := by
  let same := items.filter fun item => decide (field.key item = keys)
  have hsame : ∀ item ∈ same, field.key item = keys := fun item hitem =>
    of_decide_eq_true (List.mem_filter.1 hitem).2
  have hordered : same.Pairwise fun left right => mayPrecede field direction left right = true :=
    List.pairwise_of_forall_mem_list fun left hleft right hright =>
      mayPrecede_of_key_eq ((hsame left hleft).trans (hsame right hright).symm)
  have hpart : same.Sublist (sortItems field direction items) := by
    refine List.sublist_mergeSort ?_ mayPrecede_or hordered List.filter_sublist
    exact fun left middle right hleft hright => mayPrecede_trans hleft hright
  have hfilter : same.Sublist
      ((sortItems field direction items).filter fun item => decide (field.key item = keys)) := by
    have := hpart.filter fun item => decide (field.key item = keys)
    rwa [List.filter_eq_self.2 fun item hitem => decide_eq_true (hsame item hitem)] at this
  exact (hfilter.eq_of_length ((sortItems_perm field direction items).filter _).length_eq.symm).symm

theorem isStableOrder_sortItems : IsStableOrder field direction items
    (sortItems field direction items) where
  perm := sortItems_perm field direction items
  ordered := pairwise_sortItems.imp mayPrecede_iff.1
  stable := filter_sortItems

theorem mem_iff_of_filter_eq {first second : List ScoredManga}
    (hsame : ∀ keys, first.filter (fun item => decide (field.key item = keys)) =
      second.filter fun item => decide (field.key item = keys)) {item : ScoredManga} :
    item ∈ first ↔ item ∈ second := by
  have := congrArg (item ∈ ·) (hsame (field.key item))
  simpa only [List.mem_filter, decide_true, and_true, eq_iff_iff] using this

/-- Two lists in order that agree on the items of every pair of keys are equal. -/
theorem eq_of_filter_eq {first second : List ScoredManga}
    (hfirst : first.Pairwise fun left right => mayPrecede field direction left right = true)
    (hsecond : second.Pairwise fun left right => mayPrecede field direction left right = true)
    (hsame : ∀ keys, first.filter (fun item => decide (field.key item = keys)) =
      second.filter fun item => decide (field.key item = keys)) : first = second := by
  induction first generalizing second with
  | nil =>
    refine (List.eq_nil_iff_forall_not_mem.2 fun item hitem => ?_).symm
    exact List.not_mem_nil ((mem_iff_of_filter_eq hsame).2 hitem)
  | cons head rest ih =>
    cases second with
    | nil => exact absurd ((mem_iff_of_filter_eq hsame).1 List.mem_cons_self) List.not_mem_nil
    | cons other more =>
      obtain ⟨hhead, hrest⟩ := List.pairwise_cons.1 hfirst
      obtain ⟨hother, hmore⟩ := List.pairwise_cons.1 hsecond
      -- Each head stands in the other list too, so neither may stand behind the other.
      have hkey : field.key other = field.key head := by
        obtain heq | hlater := List.mem_cons.1 ((mem_iff_of_filter_eq hsame).2 List.mem_cons_self)
        · rw [heq]
        obtain heq | hlater' := List.mem_cons.1 ((mem_iff_of_filter_eq hsame).1 List.mem_cons_self)
        · rw [heq]
        exact key_eq_of_mayPrecede (hother head hlater') (hhead other hlater)
      have hheads := hsame (field.key head)
      simp only [List.filter_cons, hkey, decide_true, if_true, List.cons.injEq] at hheads
      obtain ⟨rfl, htails⟩ := hheads
      refine congrArg (head :: ·) (ih hrest hmore fun keys => ?_)
      by_cases hkeys : field.key head = keys
      · exact hkeys ▸ htails
      · simpa only [List.filter_cons, hkeys, decide_false, Bool.false_eq_true, if_false]
          using hsame keys

end StableOrder

/-- The ordered list is the one arrangement of the items that follows their keys and keeps items of
the same keys in their places, so that ordering it once more changes nothing.  Behind the keys of
doubles is the standard's total order. -/
theorem sortItems_iff_isStableOrder (field : SortField) (direction : SortDirection) :
    Binary64.FollowsTotalOrder Binary64.rank ∧ IsPreordered field direction ∧
      (∀ items arranged, arranged = sortItems field direction items ↔
        IsStableOrder field direction items arranged) ∧
      ∀ items, sortItems field direction (sortItems field direction items) =
        sortItems field direction items := by
  refine ⟨Binary64.rank_followsTotalOrder, isPreordered field direction, fun items arranged => ?_,
    fun items => List.mergeSort_of_pairwise pairwise_sortItems⟩
  constructor
  · rintro rfl
    exact isStableOrder_sortItems
  · intro hstable
    refine eq_of_filter_eq (hstable.ordered.imp mayPrecede_iff.2) pairwise_sortItems fun keys => ?_
    rw [hstable.stable, filter_sortItems]

end MangaRecommender
