import Mathlib
import MangaRecommender.Page
import MangaRecommender.Proofs.Document.ScoredManga

/-!
# Pages of one list

A page is a cut of the ordered list, and the pages of one size put end to end are the list.
Whoever orders the stored forms of items in their place may see another order, because a rating
that is infinite or not a number counts as absent there.  Where no such rating is compared, the
stored forms stand where the items stand, and they are written alike.
-/

namespace MangaRecommender

namespace ListParameters

/-- The part of an ordered list that a page shows. -/
def cut {Item : Type} (page size : Nat) (ordered : List Item) : List Item :=
  (ordered.drop ((page - 1) * size)).take size

theorem map_cut {Item Shown : Type} (write : Item → Shown) (page size : Nat) (ordered : List Item) :
    (cut page size ordered).map write = cut page size (ordered.map write) := by
  rw [cut, cut, List.map_take, List.map_drop]

/-- The first pages of a size put end to end are the first part of the list. -/
theorem flatten_cuts {Item : Type} (size count : Nat) (ordered : List Item) :
    ((List.range count).map fun index => cut (index + 1) size ordered).flatten =
      ordered.take (count * size) := by
  induction count with
  | zero => simp
  | succ count ih =>
    rw [List.range_succ, List.map_append, List.flatten_append, ih, Nat.succ_mul, List.take_add]
    simp [cut]

variable {parameters : ListParameters}

theorem validate_of_bounds (hpage : 1 ≤ parameters.page) (hsize : 1 ≤ parameters.size)
    (hmax : parameters.size ≤ 100) : parameters.validate = .ok () := by
  rw [validate, if_neg (by omega), if_neg (by unfold maxSize; omega)]

theorem drop_offset {Item : Type} (ordered : List Item) :
    ordered.drop (parameters.offset ordered.length) =
      ordered.drop ((parameters.page - 1) * parameters.size) := by
  rw [offset]
  obtain hinside | houtside := le_total ((parameters.page - 1) * parameters.size) ordered.length
  · rw [min_eq_left hinside]
  · rw [min_eq_right houtside, List.drop_length, List.drop_of_length_le houtside]

theorem paginate_of_validate (hvalid : parameters.validate = .ok ()) (served : Served) :
    parameters.paginate served = .ok
      { total := served.items.length
        page := parameters.page
        size := parameters.size
        items := cut parameters.page parameters.size
          (sortItems parameters.field parameters.direction served.items)
        seeds := served.seeds } := by
  simp only [paginate, hvalid, drop_offset, cut]
  simp [sortItems, bind, Except.bind, pure, Except.pure]

end ListParameters

/-! ## Stored forms -/

namespace ScoredManga

/-- An item and its stored form are the same text. -/
theorem write_storedForm (item : ScoredManga) : item.storedForm.write = item.write := by
  have hrating : Json.optional Json.double (item.rating.filter Binary64.isFinite) =
      Json.optional Json.double item.rating := by
    cases item.rating with
    | none => rfl
    | some rating =>
      by_cases hfinite : rating.isFinite = true
      · rw [Option.filter_some_pos hfinite]
      · rw [Option.filter_some_neg (Bool.not_eq_true _ ▸ hfinite), Json.optional, Json.optional,
          Json.double, if_neg hfinite]
  simp only [write, storedForm, hrating]

theorem map_write_storedForm (items : List ScoredManga) :
    (items.map storedForm).map write = items.map write := by
  rw [List.map_map]
  exact List.map_congr_left fun item _ => write_storedForm item

/-- A rating that is absent or finite is kept. -/
theorem storedForm_eq_self {item : ScoredManga}
    (hrating : ∀ rating ∈ item.rating, rating.isFinite = true) : item.storedForm = item := by
  have hkept : item.rating.filter Binary64.isFinite = item.rating := by
    cases hcase : item.rating with
    | none => rfl
    | some rating => exact Option.filter_some_pos (hrating rating hcase)
  rw [storedForm, hkept]

end ScoredManga

theorem sortItems_perm (field : SortField) (direction : SortDirection) (items : List ScoredManga) :
    (sortItems field direction items).Perm items :=
  List.mergeSort_perm items _

theorem length_sortItems (field : SortField) (direction : SortDirection)
    (items : List ScoredManga) : (sortItems field direction items).length = items.length :=
  (sortItems_perm field direction items).length_eq

/-- The order of items is that of their stored forms, unless it looks at a rating that is lost. -/
theorem sortItems_map_storedForm {field : SortField} (direction : SortDirection)
    {items : List ScoredManga}
    (hratings : field = .rating →
      ∀ item ∈ items, ∀ rating ∈ item.rating, rating.isFinite = true) :
    sortItems field direction (items.map ScoredManga.storedForm) =
      (sortItems field direction items).map ScoredManga.storedForm := by
  refine (List.map_mergeSort fun left hleft right hright => ?_).symm
  cases field with
  | score => rfl
  | title => rfl
  | rating =>
    rw [ScoredManga.storedForm_eq_self (hratings rfl left hleft),
      ScoredManga.storedForm_eq_self (hratings rfl right hright)]

end MangaRecommender
