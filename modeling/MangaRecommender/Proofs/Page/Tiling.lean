import Mathlib
import MangaRecommender.Proofs.Page.Cuts

/-!
# Pages tile the ordered list

Every page from the first on can be asked for, in every size up to the largest one, and shows the
positions that its number says.  So the pages of one size are the whole list put end to end, and
those behind its end are empty.  The position of a page is computed without a bound here, but a
product of machine words that stops at the largest word leads to the same items, because no list is
longer than that.
-/

namespace MangaRecommender

namespace ListParameters

/-! ## Positions as machine words -/

/-- The product of two words, or the largest word in place of one that is larger. -/
def saturatingMul (left right : UInt64) : UInt64 :=
  UInt64.ofNat (min (left.toNat * right.toNat) (2 ^ 64 - 1))

/-- The first position of a page among `total` ones, as a word. -/
def wordOffset (page size total : UInt64) : UInt64 :=
  min (saturatingMul (page - 1) size) total

theorem toNat_saturatingMul (left right : UInt64) :
    (saturatingMul left right).toNat = min (left.toNat * right.toNat) (2 ^ 64 - 1) := by
  rw [saturatingMul, UInt64.toNat_ofNat', Nat.mod_eq_of_lt]
  exact lt_of_le_of_lt (min_le_right _ _) (by decide)

/-- The largest word is no smaller than the number of items, so that nothing is lost with it. -/
theorem toNat_wordOffset (field : SortField) (direction : SortDirection)
    {page size total : UInt64} (hpage : 1 ≤ page) :
    (wordOffset page size total).toNat =
      offset ⟨field, direction, page.toNat, size.toNat⟩ total.toNat := by
  have htotal : total.toNat ≤ 2 ^ 64 - 1 := Nat.le_pred_of_lt total.toNat_lt
  rw [wordOffset, UInt64.toNat_min, toNat_saturatingMul, UInt64.toNat_sub_of_le _ _ hpage, offset,
    min_assoc, min_eq_right htotal]
  rfl

/-! ## The pages of a list -/

section Cuts

variable {Item : Type} {page size : Nat} (ordered : List Item)

theorem cut_eq_extract (hpage : 1 ≤ page) :
    cut page size ordered = ordered.extract ((page - 1) * size) (page * size) := by
  have hwidth : page * size - (page - 1) * size = size := by
    rw [← Nat.sub_mul, Nat.sub_sub_self hpage, Nat.one_mul]
  rw [cut, List.extract_eq_take_drop, hwidth]

theorem length_cut_le : (cut page size ordered).length ≤ size :=
  List.length_take_le _ _

theorem cut_eq_nil (hsize : 1 ≤ size) (hbehind : ordered.length ⌈/⌉ size < page) :
    cut page size ordered = [] := by
  have hend : ordered.length ≤ (page - 1) * size := by
    rw [Nat.mul_comm, ← ceilDiv_le_iff_le_mul hsize]
    exact Nat.le_pred_of_lt hbehind
  rw [cut, List.drop_of_length_le hend, List.take_nil]

theorem flatten_all_cuts (hsize : 1 ≤ size) :
    ((List.range (ordered.length ⌈/⌉ size)).map fun index => cut (index + 1) size ordered).flatten =
      ordered := by
  have hend : ordered.length ≤ ordered.length ⌈/⌉ size * size := by
    rw [Nat.mul_comm, ← ceilDiv_le_iff_le_mul hsize]
  rw [flatten_cuts, List.take_of_length_le hend]

end Cuts

/-- A page shows the positions of the ordered items that its number and its size say, and passes on
how many items there are and what is known of the seeds. -/
structure IsShown (parameters : ListParameters) (served : Served) (shown : Page) : Prop where
  total : shown.total = served.items.length
  page : shown.page = parameters.page
  size : shown.size = parameters.size
  seeds : shown.seeds = served.seeds
  items : shown.items =
    (sortItems parameters.field parameters.direction served.items).extract
      ((parameters.page - 1) * parameters.size) (parameters.page * parameters.size)
  length_le : shown.items.length ≤ parameters.size
  /-- There are as many pages as it takes to show all items. -/
  behind : served.items.length ⌈/⌉ parameters.size < parameters.page → shown.items = []
  /-- The items are those behind the position that comes out on words. -/
  words : ∀ page size total : UInt64, parameters.page = page.toNat → parameters.size = size.toNat →
    served.items.length = total.toNat →
      shown.items = ((sortItems parameters.field parameters.direction served.items).drop
        (wordOffset page size total).toNat).take size.toNat

section Requests

variable (parameters : ListParameters)

theorem isShown_of_bounds (hpage : 1 ≤ parameters.page) (hsize : 1 ≤ parameters.size)
    (hmax : parameters.size ≤ 100) (served : Served) :
    ∃ shown, parameters.paginate served = .ok shown ∧ IsShown parameters served shown := by
  have hlength := length_sortItems parameters.field parameters.direction served.items
  refine ⟨_, paginate_of_validate (validate_of_bounds hpage hsize hmax) served, rfl, rfl, rfl, rfl,
    cut_eq_extract _ hpage, length_cut_le _, fun hbehind => ?_,
    fun page size total hpageWord hsizeWord htotal => ?_⟩
  · exact cut_eq_nil _ hsize (hlength ▸ hbehind)
  · obtain ⟨field, direction, pageNumber, sizeNumber⟩ := parameters
    obtain rfl : pageNumber = page.toNat := hpageWord
    obtain rfl : sizeNumber = size.toNat := hsizeWord
    have hword : 1 ≤ page := UInt64.le_iff_toNat_le.2 hpage
    rw [toNat_wordOffset field direction hword, ← htotal, ← hlength, drop_offset]
    rfl

theorem paginate_of_refused (hrefused : ¬(1 ≤ parameters.page ∧ 1 ≤ parameters.size ∧
    parameters.size ≤ 100)) (served : Served) :
    parameters.paginate served = .error (.badRequest
      (if parameters.page < 1 then "page must be at least 1"
        else "size must be between 1 and 100")) := by
  have hvalidate : parameters.validate = .error (.badRequest
      (if parameters.page < 1 then "page must be at least 1"
        else "size must be between 1 and 100")) := by
    by_cases hpage : parameters.page < 1
    · rw [validate, if_pos hpage, if_pos hpage, Failure.pageTooSmall]
    · have hsize : parameters.size < 1 ∨ maxSize < parameters.size := by
        unfold maxSize
        omega
      rw [validate, if_neg hpage, if_neg hpage, if_pos hsize, Failure.sizeOutOfRange]
  rw [paginate, hvalidate]
  rfl

end Requests

/-- Whatever is served, the pages of one size are the ordered list put end to end, each shows its
own part of it, and no page is shown to a request with another number or size. -/
theorem pages_tile (field : SortField) (direction : SortDirection) (served : Served) :
    (sortItems field direction served.items).Perm served.items ∧
    (∀ page size, 1 ≤ page → 1 ≤ size → size ≤ 100 →
      ∃ shown, paginate ⟨field, direction, page, size⟩ served = .ok shown ∧
        IsShown ⟨field, direction, page, size⟩ served shown) ∧
    (∀ size, 1 ≤ size → size ≤ 100 →
      ∃ pages, (List.range (served.items.length ⌈/⌉ size)).mapM
          (fun index => paginate ⟨field, direction, index + 1, size⟩ served) = .ok pages ∧
        pages.flatMap Page.items = sortItems field direction served.items) ∧
    ∀ page size, ¬(1 ≤ page ∧ 1 ≤ size ∧ size ≤ 100) →
      paginate ⟨field, direction, page, size⟩ served = .error (.badRequest
        (if page < 1 then "page must be at least 1" else "size must be between 1 and 100")) := by
  refine ⟨sortItems_perm _ _ _, fun page size hpage hsize hmax => ?_, fun size hsize hmax => ?_,
    fun page size hrefused => ?_⟩
  · exact isShown_of_bounds ⟨field, direction, page, size⟩ hpage hsize hmax served
  · have hvalid : ∀ index, validate ⟨field, direction, index + 1, size⟩ = .ok () :=
      fun index => validate_of_bounds (Nat.le_add_left 1 index) hsize hmax
    have hpages := funext fun index => paginate_of_validate (hvalid index) served
    rw [hpages]
    refine ⟨_, List.mapM_pure, ?_⟩
    rw [List.flatMap_map, List.flatMap_def, ← length_sortItems field direction]
    exact flatten_all_cuts (sortItems field direction served.items) hsize
  · exact paginate_of_refused ⟨field, direction, page, size⟩ hrefused served

def unscored (id : Int32) (title : String) : ScoredManga where
  id := id
  title := title
  rating := none
  cover := none
  score := Score.zero
  details := ⟨Score.zero, Score.zero, Score.zero, Score.zero, Score.zero, Score.zero⟩

/-- Three items, two of which differ in their titles only by case. -/
def threeItems : Served where
  items := [unscored 1 "berserk", unscored 2 "Akira", unscored 3 "Berserk"]
  seeds := some ⟨9, 2, true⟩

/-- The largest number of a page is far behind the end, whatever its product with the size. -/
theorem pages_tile_largestWord :
    1 ≤ 2 ^ 64 - 1 ∧ 1 ≤ 100 ∧ 100 ≤ 100 ∧ 1 ≤ 2 ∧ 2 ≤ 100 ∧
      (∃ shown, paginate ⟨.title, .ascending, 2 ^ 64 - 1, 100⟩ threeItems = .ok shown ∧
        shown.total = 3 ∧ shown.seeds = some ⟨9, 2, true⟩ ∧ shown.items = []) ∧
      ∃ pages, (List.range 2).mapM
          (fun index => paginate ⟨.title, .ascending, index + 1, 2⟩ threeItems) = .ok pages ∧
        pages.flatMap Page.items = sortItems .title .ascending threeItems.items := by
  obtain ⟨-, hpage, htiles, -⟩ := pages_tile .title .ascending threeItems
  refine ⟨by decide, by decide, by decide, by decide, by decide, ?_,
    htiles 2 (by decide) (by decide)⟩
  obtain ⟨shown, hshown, hisShown⟩ :=
    hpage (2 ^ 64 - 1) 100 (by decide) (by decide) (by decide)
  exact ⟨shown, hshown, hisShown.total, hisShown.seeds, hisShown.behind (by decide)⟩

end ListParameters

end MangaRecommender
