import Mathlib
import MangaRecommender.Profile.Frequencies

/-!
# Attributes that were recorded

An update keeps every key of a map and adds its own, so the attributes of a frequency map are
exactly those of the list that was recorded.  Each of them counts its occurrences in that list, and
the weight of distinct attributes is the number of entries that are any of them, as long as 32 bits
hold the length of the list.
-/

namespace MangaRecommender

namespace IdMap

variable {Value : Type}

theorem mem_map_fst_updateEntries (id : Int32) (change : Option Value → Value)
    (entries : List (Int32 × Value)) (other : Int32) :
    other ∈ (updateEntries id change entries).map Prod.fst ↔
      other = id ∨ other ∈ entries.map Prod.fst := by
  induction entries with
  | nil => simp [updateEntries]
  | cons entry rest ih =>
    rw [updateEntries]
    split
    · simp
    · split
      · rw [List.map_cons, List.mem_cons, ih, List.map_cons, List.mem_cons]
        exact or_left_comm
      · next hbefore hafter =>
        have hsame : entry.1 = id := Int32.le_antisymm (Int32.not_lt.1 hbefore)
          (Int32.not_lt.1 hafter)
        simp [hsame]

theorem mem_keys_update {map : IdMap Value} {id other : Int32} {change : Option Value → Value} :
    other ∈ (map.update id change).keys ↔ other = id ∨ other ∈ map.keys :=
  mem_map_fst_updateEntries id change map.entries other

theorem mem_keys_foldl_update {change : Option Value → Value} {ids : List Int32}
    {map : IdMap Value} {wanted : Int32} :
    wanted ∈ (ids.foldl (fun map id => map.update id change) map).keys ↔
      wanted ∈ ids ∨ wanted ∈ map.keys := by
  induction ids generalizing map with
  | nil => simp
  | cons first rest ih =>
    rw [List.foldl_cons, ih, mem_keys_update, List.mem_cons, or_assoc]
    exact or_left_comm

theorem ascending_keys (map : IdMap Value) : map.keys.Pairwise (· < ·) :=
  List.pairwise_map.2 map.ascending

theorem lookup_cons (key : Int32) (entry : Int32 × Value) (rest : List (Int32 × Value)) :
    (entry :: rest).lookup key = if key = entry.1 then some entry.2 else rest.lookup key := by
  rw [List.lookup_cons]
  by_cases hkey : key = entry.1
  · simp [hkey]
  · simp [hkey, beq_eq_false_iff_ne.2 hkey]

theorem lookup_updateEntries (id : Int32) (change : Option Value → Value)
    {entries : List (Int32 × Value)}
    (hascending : entries.Pairwise fun left right => left.1 < right.1) (other : Int32) :
    (updateEntries id change entries).lookup other =
      if other = id then some (change (entries.lookup id)) else entries.lookup other := by
  induction entries with
  | nil => exact lookup_cons other (id, change none) []
  | cons entry rest ih =>
    obtain ⟨hfirst, hrest⟩ := List.pairwise_cons.1 hascending
    rw [updateEntries]
    split
    · next hbefore =>
      -- the id is smaller than every key, so it had no entry
      have hnone : (entry :: rest).lookup id = none := by
        refine List.lookup_eq_none_iff.2 fun old hold => ?_
        rcases List.mem_cons.1 hold with rfl | hlater
        · simpa using Int32.ne_of_lt hbefore
        · simpa using Int32.ne_of_lt (Int32.lt_trans hbefore (hfirst old hlater))
      rw [hnone]
      exact lookup_cons other (id, change none) (entry :: rest)
    · split
      · next hafter =>
        have hkey : id ≠ entry.1 := (Int32.ne_of_lt hafter).symm
        rw [lookup_cons, ih hrest, lookup_cons id, if_neg hkey, lookup_cons other]
        by_cases hother : other = id
        · simp only [hother, hkey, if_true, if_false]
        · simp only [hother, if_false]
      · next hbefore hafter =>
        have hsame : id = entry.1 := Int32.le_antisymm (Int32.not_lt.1 hafter)
          (Int32.not_lt.1 hbefore)
        rw [lookup_cons, lookup_cons id, if_pos hsame, lookup_cons other, hsame]
        split <;> rfl

theorem get?_update (map : IdMap Value) (id other : Int32) (change : Option Value → Value) :
    (map.update id change).get? other =
      if other = id then some (change (map.get? id)) else map.get? other :=
  lookup_updateEntries id change map.ascending other

end IdMap

theorem IdSet.contains_ofList {ids : List Int32} {id : Int32} :
    (ofList ids).contains id = true ↔ id ∈ ids := by
  have hempty : id ∉ (IdMap.empty : IdSet).keys := List.not_mem_nil
  rw [IdMap.contains, List.contains_iff_mem]
  exact IdMap.mem_keys_foldl_update.trans (or_iff_left hempty)

namespace Frequencies

/-- An attribute counts if it was recorded at all. -/
theorem mem_ids_ofList {ids : List Int32} {id : Int32} : id ∈ (ofList ids).ids ↔ id ∈ ids := by
  have hempty : id ∉ Frequencies.ids IdMap.empty := List.not_mem_nil
  exact IdMap.mem_keys_foldl_update.trans (or_iff_left hempty)

theorem count_record (frequencies : Frequencies) (id other : Int32) :
    (frequencies.record id).count other =
      frequencies.count other + if other = id then 1 else 0 := by
  rw [record, count, IdMap.get?_update]
  by_cases hother : other = id
  · simp [hother, count]
  · simp [hother, count]

theorem count_foldl_record (frequencies : Frequencies) (ids : List Int32) (id : Int32) :
    (ids.foldl record frequencies).count id =
      frequencies.count id + UInt32.ofNat (ids.count id) := by
  induction ids generalizing frequencies with
  | nil => simp
  | cons first rest ih =>
    rw [List.foldl_cons, ih, count_record, UInt32.add_assoc]
    by_cases hfirst : id = first
    · rw [if_pos hfirst, hfirst, List.count_cons_self, Nat.add_comm, UInt32.ofNat_add]
      rfl
    · rw [if_neg hfirst, List.count_cons_of_ne (Ne.symm hfirst), UInt32.zero_add]

/-- An attribute counts as often as it was recorded, in 32 bits. -/
theorem count_ofList (ids : List Int32) (id : Int32) :
    (ofList ids).count id = UInt32.ofNat (ids.count id) := by
  have hempty : count IdMap.empty id = 0 := rfl
  rw [ofList, count_foldl_record, hempty, UInt32.zero_add]

theorem weightOf_ofList (recorded ids : List Int32) :
    (ofList recorded).weightOf ids = UInt32.ofNat (ids.map recorded.count).sum := by
  have hfold : ∀ weight : UInt32,
      ids.foldl (fun weight id => weight + (ofList recorded).count id) weight =
        weight + UInt32.ofNat (ids.map recorded.count).sum := by
    induction ids with
    | nil => simp
    | cons id rest ih =>
      intro weight
      rw [List.foldl_cons, ih, count_ofList, List.map_cons, List.sum_cons, UInt32.ofNat_add,
        UInt32.add_assoc]
  rw [weightOf, hfold, UInt32.zero_add]

theorem sum_map_indicator (ids : List Int32) (wanted : Int32) :
    (ids.map fun id => if id = wanted then 1 else 0).sum = ids.count wanted := by
  induction ids with
  | nil => rfl
  | cons id ids ih =>
    rw [List.map_cons, List.sum_cons, ih, List.count_cons, Nat.add_comm]
    simp only [beq_iff_eq]

/-- The counts of distinct ids together are the entries that are any of them. -/
theorem sum_map_count {ids : List Int32} (hnodup : ids.Nodup) (recorded : List Int32) :
    (ids.map recorded.count).sum = recorded.countP fun id => ids.contains id := by
  induction recorded with
  | nil => simp
  | cons first rest ih =>
    have hsplit : ids.map (first :: rest).count =
        ids.map fun id => rest.count id + if id = first then 1 else 0 := by
      refine List.map_congr_left fun id _ => ?_
      simp only [List.count_cons, beq_iff_eq, @eq_comm _ first]
    rw [hsplit, List.sum_map_add, ih, sum_map_indicator, hnodup.count, List.countP_cons]
    simp only [List.contains_iff_mem]

theorem toNat_weightOf {recorded ids : List Int32} (hnodup : ids.Nodup)
    (hfew : recorded.length < UInt32.size) :
    ((ofList recorded).weightOf ids).toNat = recorded.countP fun id => ids.contains id := by
  rw [weightOf_ofList, sum_map_count hnodup]
  exact UInt32.toNat_ofNat_of_lt (List.countP_le_length.trans_lt hfew)

end Frequencies

end MangaRecommender
