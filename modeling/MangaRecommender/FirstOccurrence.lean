/-!
# First occurrences

Of the items of a list that share a key the first stays and the others are dropped; the order is
kept.
-/

namespace MangaRecommender

variable {Item : Type}

def firstOccurrences (key : Item → Int32) : List Item → List Item
  | [] => []
  | item :: rest => item :: (firstOccurrences key rest).filter fun other => key other != key item

theorem mem_of_mem_firstOccurrences {key : Item → Int32} {items : List Item} {item : Item}
    (hitem : item ∈ firstOccurrences key items) : item ∈ items := by
  induction items with
  | nil => simp [firstOccurrences] at hitem
  | cons first rest ih =>
    rcases List.mem_cons.1 hitem with heq | hmem
    · exact heq ▸ List.mem_cons_self
    · exact List.mem_cons_of_mem _ (ih (List.mem_filter.1 hmem).1)

/-- The remaining keys are distinct. -/
theorem nodup_map_firstOccurrences (key : Item → Int32) (items : List Item) :
    ((firstOccurrences key items).map key).Nodup := by
  induction items with
  | nil => simp [firstOccurrences]
  | cons first rest ih =>
    refine List.nodup_cons.2 ⟨?_, ?_⟩
    · intro hmem
      obtain ⟨other, hother, hkey⟩ := List.mem_map.1 hmem
      simpa [hkey] using (List.mem_filter.1 hother).2
    · exact ((List.filter_sublist (l := firstOccurrences key rest)).map key).nodup ih

/-- No key is lost. -/
theorem mem_map_firstOccurrences {key : Item → Int32} {items : List Item} {wanted : Int32} :
    wanted ∈ (firstOccurrences key items).map key ↔ wanted ∈ items.map key := by
  induction items with
  | nil => simp [firstOccurrences]
  | cons first rest ih =>
    simp only [firstOccurrences, List.map_cons, List.mem_cons, ← ih]
    by_cases hfirst : wanted = key first
    · simp [hfirst]
    · simp only [hfirst, false_or, List.mem_map, List.mem_filter]
      constructor
      · rintro ⟨other, ⟨hmem, _⟩, hkey⟩
        exact ⟨other, hmem, hkey⟩
      · rintro ⟨other, hmem, hkey⟩
        exact ⟨other, ⟨hmem, by simpa [hkey] using hfirst⟩, hkey⟩

theorem firstOccurrences_sublist (key : Item → Int32) (items : List Item) :
    (firstOccurrences key items).Sublist items := by
  induction items with
  | nil => exact .slnil
  | cons first rest ih => exact (List.filter_sublist.trans ih).cons_cons first

/-- What follows a list adds the keys that the list has not. -/
theorem firstOccurrences_append (key : Item → Int32) (left right : List Item) :
    firstOccurrences key (left ++ right) = firstOccurrences key left ++
      (firstOccurrences key right).filter fun item => !(left.map key).contains (key item) := by
  induction left with
  | nil =>
    rw [List.nil_append, firstOccurrences, List.nil_append]
    exact (List.filter_eq_self.2 fun _ _ => rfl).symm
  | cons first rest ih =>
    rw [List.cons_append, firstOccurrences, firstOccurrences, ih, List.filter_append,
      List.filter_filter, List.cons_append]
    congr 2
    apply List.filter_congr
    intro item _
    rw [List.map_cons, List.contains_cons, Bool.not_or]
    rfl

/-- The first occurrences within the beginning of a list are those with a key of the beginning. -/
theorem firstOccurrences_of_append (key : Item → Int32) (left right : List Item) :
    ((firstOccurrences key (left ++ right)).filter fun item =>
      (left.map key).contains (key item)) = firstOccurrences key left := by
  have hleft : (firstOccurrences key left).filter
      (fun item => (left.map key).contains (key item)) = firstOccurrences key left :=
    List.filter_eq_self.2 fun item hitem =>
      List.contains_iff_mem.2 (List.mem_map_of_mem (mem_of_mem_firstOccurrences hitem))
  have hright : (firstOccurrences key right).filter (fun item =>
      (left.map key).contains (key item) && !(left.map key).contains (key item)) = [] :=
    List.filter_eq_nil_iff.2 fun item _ => by simp
  rw [firstOccurrences_append, List.filter_append, List.filter_filter, hleft, hright,
    List.append_nil]

end MangaRecommender
