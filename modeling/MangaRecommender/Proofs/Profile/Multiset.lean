import Mathlib
import MangaRecommender.Binary64.Basic
import MangaRecommender.Proofs.Profile.Frequencies

/-!
# Frequency maps as multisets

A map is determined by what it answers, and attributes that are recorded in another order give the
same answers.  So a frequency map is the multiset of what was recorded, however it was built: it
holds each attribute as often as it was recorded, and the weight of some attributes is the number
of pairs of a recorded and an asked one that are the same.  All of this is exact as long as 32 bits
hold the numbers.
-/

namespace MangaRecommender

/-! ## Maps with the same answers -/

namespace IdMap

variable {Value : Type}

theorem mem_entries_iff (map : IdMap Value) (entry : Int32 × Value) :
    entry ∈ map.entries ↔ map.get? entry.1 = some entry.2 := by
  obtain ⟨entries, hascending⟩ := map
  show entry ∈ entries ↔ entries.lookup entry.1 = some entry.2
  induction entries with
  | nil => simp
  | cons first rest ih =>
    obtain ⟨hfirst, hrest⟩ := List.pairwise_cons.1 hascending
    rw [List.mem_cons, lookup_cons]
    by_cases hkey : entry.1 = first.1
    · -- No later entry has the key of the first.
      have hlater : entry ∉ rest := fun hmem =>
        Int32.ne_of_lt (hfirst entry hmem) hkey.symm
      rw [if_pos hkey, or_iff_left hlater, Option.some.injEq]
      exact ⟨fun heq => congrArg Prod.snd heq.symm, fun hvalue => Prod.ext hkey hvalue.symm⟩
    · have hother : entry ≠ first := fun heq => hkey (congrArg Prod.fst heq)
      rw [if_neg hkey, or_iff_right hother]
      exact ih hrest

/-- Two maps that answer alike are the same map. -/
theorem ext_get? {left right : IdMap Value} (hget : ∀ id, left.get? id = right.get? id) :
    left = right := by
  have hnodup : ∀ map : IdMap Value, map.entries.Nodup := fun map =>
    map.ascending.imp fun hlt heq => Int32.ne_of_lt hlt (congrArg Prod.fst heq)
  have hperm : left.entries.Perm right.entries := by
    refine (List.perm_ext_iff_of_nodup (hnodup left) (hnodup right)).2 fun entry => ?_
    rw [mem_entries_iff, mem_entries_iff, hget]
  have hentries := hperm.eq_of_pairwise (fun _ _ _ _ hlt hgt => absurd hlt (Int32.lt_asymm hgt))
    left.ascending right.ascending
  cases left
  cases right
  cases hentries
  rfl

end IdMap

namespace Frequencies

theorem record_right_comm (frequencies : Frequencies) (first second : Int32) :
    (frequencies.record first).record second = (frequencies.record second).record first := by
  by_cases hsame : first = second
  · rw [hsame]
  · refine IdMap.ext_get? fun id => ?_
    simp only [record, IdMap.get?_update]
    by_cases hfirst : id = first
    · have hsecond : id ≠ second := hfirst ▸ hsame
      simp [hfirst, hsame]
    · by_cases hsecond : id = second
      · simp [hsecond, Ne.symm hsame]
      · simp [hfirst, hsecond]

theorem ofList_eq_of_perm {recorded permuted : List Int32} (hperm : permuted.Perm recorded) :
    ofList permuted = ofList recorded :=
  hperm.foldl_eq' (fun first _ second _ map => record_right_comm map first second) _

/-! ## Ways to build a map -/

/-- A map comes from nothing, from a list of attributes at once, or from a map that records one
more. -/
inductive IsBuiltFrom : Frequencies → List Int32 → Prop
  | empty : IsBuiltFrom IdMap.empty []
  | ofList (recorded : List Int32) : IsBuiltFrom (.ofList recorded) recorded
  | record {frequencies : Frequencies} {recorded : List Int32} (id : Int32)
      (hbuilt : IsBuiltFrom frequencies recorded) :
      IsBuiltFrom (frequencies.record id) (recorded ++ [id])

theorem ofList_concat (recorded : List Int32) (id : Int32) :
    ofList (recorded ++ [id]) = (ofList recorded).record id :=
  List.foldl_concat ..

/-- However a map was built, it is the one that the list gives at once. -/
theorem IsBuiltFrom.eq_ofList {frequencies : Frequencies} {recorded : List Int32}
    (hbuilt : frequencies.IsBuiltFrom recorded) : frequencies = .ofList recorded := by
  induction hbuilt with
  | empty => rfl
  | ofList recorded => rfl
  | record id _ ih => rw [ih, ofList_concat]

/-! ## Pairs of the same attribute -/

/-- The pairs of a recorded position and an asked one that hold the same attribute. -/
def samePairs (recorded asked : List Int32) : Finset (Fin recorded.length × Fin asked.length) :=
  Finset.univ.filter fun pair => recorded[pair.1] = asked[pair.2]

theorem card_samePairs (recorded asked : List Int32) :
    (samePairs recorded asked).card = (asked.map recorded.count).sum := by
  have hcolumn : ∀ id, (∑ position : Fin recorded.length,
      if recorded[position.1] = id then 1 else 0) = recorded.count id := by
    intro id
    rw [Fin.sum_univ_fun_getElem recorded fun other => if other = id then 1 else 0]
    exact sum_map_indicator recorded id
  calc (samePairs recorded asked).card
      = ∑ pair : Fin recorded.length × Fin asked.length,
          if recorded[pair.1.1] = asked[pair.2.1] then 1 else 0 := Finset.card_filter ..
    _ = ∑ position : Fin asked.length, recorded.count asked[position.1] := by
        rw [Fintype.sum_prod_type_right]
        exact Finset.sum_congr rfl fun position _ => hcolumn asked[position.1]
    _ = (asked.map recorded.count).sum := Fin.sum_univ_fun_getElem asked recorded.count

theorem card_samePairs_append_asked (recorded first second : List Int32) :
    (samePairs recorded (first ++ second)).card =
      (samePairs recorded first).card + (samePairs recorded second).card := by
  rw [card_samePairs, card_samePairs, card_samePairs, List.map_append, List.sum_append]

theorem card_samePairs_append_recorded {recorded first second : List Int32}
    (hrecorded : recorded.Perm (first ++ second)) (asked : List Int32) :
    (samePairs recorded asked).card =
      (samePairs first asked).card + (samePairs second asked).card := by
  have hcount : asked.map recorded.count = asked.map fun id => first.count id + second.count id :=
    List.map_congr_left fun id _ => by rw [hrecorded.count_eq, List.count_append]
  rw [card_samePairs, card_samePairs, card_samePairs, hcount, List.sum_map_add]

/-- A weight is the number of pairs, if 32 bits hold it. -/
theorem IsBuiltFrom.toNat_weightOf {frequencies : Frequencies} {recorded asked : List Int32}
    (hbuilt : frequencies.IsBuiltFrom recorded) (hfits : (samePairs recorded asked).card < 2 ^ 32) :
    (frequencies.weightOf asked).toNat = (samePairs recorded asked).card := by
  rw [hbuilt.eq_ofList, weightOf_ofList, ← card_samePairs]
  exact UInt32.toNat_ofNat_of_lt' hfits

/-- A count is exact, if 32 bits hold the number of everything that was recorded. -/
theorem IsBuiltFrom.toNat_count {frequencies : Frequencies} {recorded : List Int32}
    (hbuilt : frequencies.IsBuiltFrom recorded) (hfew : recorded.length < 2 ^ 32) (id : Int32) :
    (frequencies.count id).toNat = recorded.count id := by
  rw [hbuilt.eq_ofList, count_ofList]
  exact UInt32.toNat_ofNat_of_lt' (List.count_le_length.trans_lt hfew)

theorem isEmpty_iff_ids {frequencies : Frequencies} :
    frequencies.isEmpty = true ↔ frequencies.ids = [] := by
  rw [IdMap.isEmpty, List.isEmpty_iff, ids, IdMap.keys, List.map_eq_nil_iff]

/-! ## The multiset of what was recorded -/

/-- The map holds the attributes of a list, each as often as it occurs there, and nothing of their
order. -/
structure HoldsMultiset (recorded : List Int32) (frequencies : Frequencies) : Prop where
  toNat_count : ∀ id, (frequencies.count id).toNat = recorded.count id
  ascending_ids : frequencies.ids.Pairwise (· < ·)
  mem_ids_iff : ∀ id, id ∈ frequencies.ids ↔ id ∈ recorded
  isEmpty_iff : frequencies.isEmpty = true ↔ recorded = []
  toNat_weightOf : ∀ asked, (samePairs recorded asked).card < 2 ^ 32 →
    (frequencies.weightOf asked).toNat = (samePairs recorded asked).card
  /-- Maps of the same attributes are the same, in whatever order and way they were built. -/
  eq_iff_perm : ∀ other listed, IsBuiltFrom other listed → listed.length < 2 ^ 32 →
    (other = frequencies ↔ listed.Perm recorded)
  weightOf_append : ∀ first second, (samePairs recorded (first ++ second)).card < 2 ^ 32 →
    (frequencies.weightOf (first ++ second)).toNat =
      (frequencies.weightOf first).toNat + (frequencies.weightOf second).toNat
  /-- If the attributes are shared out between two maps, the weights of these are added. -/
  weightOf_parts : ∀ left right first second, IsBuiltFrom left first → IsBuiltFrom right second →
    recorded.Perm (first ++ second) → ∀ asked, (samePairs recorded asked).card < 2 ^ 32 →
    (frequencies.weightOf asked).toNat =
      (left.weightOf asked).toNat + (right.weightOf asked).toNat

/-- Every map that was built from few enough attributes is their multiset. -/
theorem frequencies_hold_multiset {frequencies : Frequencies} {recorded : List Int32}
    (hbuilt : frequencies.IsBuiltFrom recorded) (hfew : recorded.length < 2 ^ 32) :
    frequencies.HoldsMultiset recorded where
  toNat_count := hbuilt.toNat_count hfew
  ascending_ids := frequencies.ascending_keys
  mem_ids_iff id := by rw [hbuilt.eq_ofList, mem_ids_ofList]
  isEmpty_iff := by
    rw [isEmpty_iff_ids, List.eq_nil_iff_forall_not_mem, List.eq_nil_iff_forall_not_mem,
      hbuilt.eq_ofList]
    simp only [mem_ids_ofList]
  toNat_weightOf asked hfits := hbuilt.toNat_weightOf hfits
  eq_iff_perm other listed hother hlisted := by
    constructor
    · rintro rfl
      refine List.perm_iff_count.2 fun id => ?_
      rw [← hbuilt.toNat_count hfew, ← hother.toNat_count hlisted]
    · intro hperm
      rw [hother.eq_ofList, hbuilt.eq_ofList, ofList_eq_of_perm hperm]
  weightOf_append first second hfits := by
    have hsum := card_samePairs_append_asked recorded first second
    rw [hbuilt.toNat_weightOf hfits, hbuilt.toNat_weightOf (by omega),
      hbuilt.toNat_weightOf (by omega), hsum]
  weightOf_parts left right first second hleft hright hrecorded asked hfits := by
    have hsum := card_samePairs_append_recorded hrecorded asked
    rw [hbuilt.toNat_weightOf hfits, hleft.toNat_weightOf (by omega),
      hright.toNat_weightOf (by omega), hsum]

/-- A map that is built from three attributes and records three more. -/
def sixRecords : Frequencies := (((ofList [1, 1, 2]).record 3).record 3).record 3

theorem frequencies_hold_multiset_sixRecords :
    sixRecords.IsBuiltFrom [1, 1, 2, 3, 3, 3] ∧ [1, 1, 2, 3, 3, 3].length < 2 ^ 32 ∧
      (sixRecords.count 3).toNat = 3 ∧ sixRecords.isEmpty = false ∧
      (sixRecords.weightOf [1, 3, 9]).toNat = 5 ∧ ofList [3, 1, 3, 2, 1, 3] = sixRecords ∧
      ofList [1, 2, 3] ≠ sixRecords := by
  have hbuilt : sixRecords.IsBuiltFrom [1, 1, 2, 3, 3, 3] :=
    .record 3 (.record 3 (.record 3 (.ofList [1, 1, 2])))
  have hfew : [1, 1, 2, 3, 3, 3].length < 2 ^ 32 := by decide
  have hholds := frequencies_hold_multiset hbuilt hfew
  have hpairs : (samePairs [1, 1, 2, 3, 3, 3] [1, 3, 9]).card = 5 := by
    rw [card_samePairs]
    decide
  refine ⟨hbuilt, hfew, ?_, ?_, ?_, ?_, ?_⟩
  · rw [hholds.toNat_count]
    decide
  · rw [Bool.eq_false_iff, ne_eq, hholds.isEmpty_iff]
    decide
  · rw [hholds.toNat_weightOf [1, 3, 9] (by rw [hpairs]; decide), hpairs]
  · exact (hholds.eq_iff_perm _ _ (.ofList _) (by decide)).2 (by decide)
  · exact mt (hholds.eq_iff_perm _ _ (.ofList _) (by decide)).1 (by decide)

end Frequencies

end MangaRecommender
