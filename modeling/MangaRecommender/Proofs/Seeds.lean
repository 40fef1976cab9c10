import Mathlib
import MangaRecommender.Proofs.Catalogue.Traced
import MangaRecommender.Seeds

/-!
# Which ids become seeds

The ids that a list has, each where it occurs first, are one list and no other.  Its beginning up to
the cap are the seeds, and its length is reported.  Seeds are their own seeds, and a list that has
enough of them can go on as it likes.  Ids from a caller and ids of a collection are treated alike,
except that the former must be positive to count.
-/

namespace MangaRecommender

/-! ## Distinct ids -/

/-- The wanted ids of a list, each of which stands where it occurs first. -/
structure ListsDistinct (wanted : Int32 → Bool) (given distinct : List Int32) : Prop where
  mem_iff : ∀ id, id ∈ distinct ↔ id ∈ given ∧ wanted id = true
  ordered : distinct.Pairwise fun first second => given.idxOf first < given.idxOf second

theorem mem_firstOccurrences {ids : List Int32} {wanted : Int32} :
    wanted ∈ firstOccurrences id ids ↔ wanted ∈ ids := by
  have hmap : wanted ∈ (firstOccurrences id ids).map id ↔ wanted ∈ ids.map id :=
    mem_map_firstOccurrences
  rwa [List.map_id, List.map_id] at hmap

theorem nodup_firstOccurrences (ids : List Int32) : (firstOccurrences id ids).Nodup := by
  have hkeys := nodup_map_firstOccurrences id ids
  rwa [List.map_id] at hkeys

theorem length_firstOccurrences (ids : List Int32) :
    (firstOccurrences id ids).length = ids.toFinset.card := by
  have hset : (firstOccurrences id ids).toFinset = ids.toFinset := by
    ext wanted
    rw [List.mem_toFinset, List.mem_toFinset, mem_firstOccurrences]
  rw [← List.toFinset_card_of_nodup (nodup_firstOccurrences ids), hset]

theorem firstOccurrences_of_nodup {ids : List Int32} (hnodup : ids.Nodup) :
    firstOccurrences id ids = ids := by
  induction ids with
  | nil => rfl
  | cons first rest ih =>
    obtain ⟨hfirst, hrest⟩ := List.nodup_cons.1 hnodup
    rw [firstOccurrences, ih hrest, List.filter_eq_self.2]
    intro other hother
    exact bne_iff_ne.2 fun heq : other = first => hfirst (heq ▸ hother)

/-- A new head moves all others one place back. -/
theorem pairwise_idxOf_cons {first : Int32} {rest distinct : List Int32}
    (hne : ∀ id ∈ distinct, id ≠ first)
    (hordered : distinct.Pairwise fun left right => rest.idxOf left < rest.idxOf right) :
    distinct.Pairwise fun left right =>
      (first :: rest).idxOf left < (first :: rest).idxOf right := by
  refine hordered.imp_of_mem fun hleft hright hlt => ?_
  rw [List.idxOf_cons_ne _ (hne _ hleft).symm, List.idxOf_cons_ne _ (hne _ hright).symm]
  exact Nat.succ_lt_succ hlt

theorem pairwise_firstOccurrences (wanted : Int32 → Bool) (given : List Int32) :
    (firstOccurrences id (given.filter wanted)).Pairwise fun left right =>
      given.idxOf left < given.idxOf right := by
  induction given with
  | nil => exact .nil
  | cons first rest ih =>
    by_cases hwanted : wanted first = true
    · rw [List.filter_cons_of_pos hwanted, firstOccurrences]
      have hne : ∀ other ∈ (firstOccurrences id (rest.filter wanted)).filter (· != first),
          other ≠ first := fun other hother => bne_iff_ne.1 (List.mem_filter.1 hother).2
      refine List.pairwise_cons.2 ⟨fun other hother => ?_, pairwise_idxOf_cons hne (ih.filter _)⟩
      rw [List.idxOf_cons_self, List.idxOf_cons_ne _ (hne other hother).symm]
      exact Nat.succ_pos _
    · rw [List.filter_cons_of_neg hwanted]
      refine pairwise_idxOf_cons (fun id hid => ?_) ih
      rintro rfl
      exact hwanted (List.mem_filter.1 (mem_firstOccurrences.1 hid)).2

theorem listsDistinct_firstOccurrences (wanted : Int32 → Bool) (given : List Int32) :
    ListsDistinct wanted given (firstOccurrences id (given.filter wanted)) where
  mem_iff id := by rw [mem_firstOccurrences, List.mem_filter]
  ordered := pairwise_firstOccurrences wanted given

/-- The list is determined by its description. -/
theorem ListsDistinct.unique {wanted : Int32 → Bool} {given first second : List Int32}
    (hfirst : ListsDistinct wanted given first) (hsecond : ListsDistinct wanted given second) :
    first = second := by
  have hnodup : ∀ {distinct}, ListsDistinct wanted given distinct → distinct.Nodup :=
    fun hdistinct => hdistinct.ordered.imp fun hlt heq => hlt.ne (congrArg given.idxOf heq)
  have hperm : first.Perm second := (List.perm_ext_iff_of_nodup (hnodup hfirst) (hnodup hsecond)).2
    fun id => (hfirst.mem_iff id).trans (hsecond.mem_iff id).symm
  exact hperm.eq_of_pairwise (fun _ _ _ _ hlt hgt => absurd hlt hgt.asymm) hfirst.ordered
    hsecond.ordered

/-! ## Seeds -/

namespace Seeds

/-- The seeds that given ids come to: the wanted ones among them, each once, up to the cap. -/
structure AreFirst (wanted : Int32 → Bool) (maxSeeds : Nat) (given : List Int32) (seeds : Seeds) :
    Prop where
  ids : ∃ distinct, (∀ other, ListsDistinct wanted given other ↔ other = distinct) ∧
    seeds.ids = distinct.take maxSeeds
  nodup : seeds.ids.Nodup
  sublist : seeds.ids.Sublist given
  total : seeds.summary.total = (given.filter wanted).toFinset.card
  used : seeds.summary.used = min seeds.summary.total maxSeeds
  length : seeds.ids.length = seeds.summary.used
  truncated : seeds.summary.truncated = true ↔ maxSeeds < seeds.summary.total

/-- How given ids are resolved to seeds, or refused for want of one. -/
structure Resolves (wanted : Int32 → Bool) (failure : Failure) (maxSeeds : Nat)
    (resolve : List Int32 → Except Failure Seeds) : Prop where
  refused : ∀ given, (∀ id ∈ given, wanted id = false) ∨ maxSeeds = 0 →
    resolve given = .error failure
  resolved : ∀ given, (∃ id ∈ given, wanted id = true) → maxSeeds ≠ 0 →
    ∃ seeds, resolve given = .ok seeds ∧ AreFirst wanted maxSeeds given seeds
  again : ∀ given seeds, resolve given = .ok seeds →
    ∃ again, resolve seeds.ids = .ok again ∧ again.ids = seeds.ids
  /-- Behind as many wanted ids as there are places nothing more is used. -/
  append : ∀ given more, maxSeeds ≤ (given.filter wanted).toFinset.card →
    (resolve (given ++ more)).map Seeds.ids = (resolve given).map Seeds.ids

section Resolve

variable (wanted : Int32 → Bool) (failure : Failure) (maxSeeds : Nat)

def ofWanted (given : List Int32) : Except Failure Seeds :=
  (capped maxSeeds (given.filter wanted)).orElse failure

theorem areFirst_capped (given : List Int32) :
    AreFirst wanted maxSeeds given (capped maxSeeds (given.filter wanted)) where
  ids := by
    refine ⟨_, fun other => ⟨fun hother => ?_, ?_⟩, rfl⟩
    · exact hother.unique (listsDistinct_firstOccurrences wanted given)
    · rintro rfl
      exact listsDistinct_firstOccurrences wanted given
  nodup := (nodup_firstOccurrences _).sublist (List.take_sublist _ _)
  sublist := (List.take_sublist _ _).trans
    ((firstOccurrences_sublist id _).trans List.filter_sublist)
  total := length_firstOccurrences _
  used := List.length_take.trans (Nat.min_comm _ _)
  length := rfl
  truncated := by
    simp only [summary, capped, List.length_take, decide_eq_true_eq]
    omega

theorem capped_ids_eq_nil_iff {given : List Int32} :
    (capped maxSeeds (given.filter wanted)).ids = [] ↔
      (∀ id ∈ given, wanted id = false) ∨ maxSeeds = 0 := by
  have hnone : firstOccurrences id (given.filter wanted) = [] ↔
      ∀ id ∈ given, wanted id = false := by
    simp only [List.eq_nil_iff_forall_not_mem, mem_firstOccurrences, List.mem_filter, not_and,
      Bool.not_eq_true]
  rw [capped, List.take_eq_nil_iff, hnone, or_comm]

theorem ofWanted_of_refused {given : List Int32}
    (hrefused : (∀ id ∈ given, wanted id = false) ∨ maxSeeds = 0) :
    ofWanted wanted failure maxSeeds given = .error failure := by
  have hnil := (capped_ids_eq_nil_iff wanted maxSeeds).2 hrefused
  rw [ofWanted, orElse, isEmpty, hnil, if_pos List.isEmpty_nil]

theorem ofWanted_eq_ok_iff {given : List Int32} {seeds : Seeds} :
    ofWanted wanted failure maxSeeds given = .ok seeds ↔
      seeds = capped maxSeeds (given.filter wanted) ∧ seeds.ids ≠ [] := by
  rw [ofWanted, orElse]
  split
  · next hempty =>
    have hnil := List.isEmpty_iff.1 hempty
    exact ⟨nofun, fun ⟨heq, hids⟩ => absurd (heq ▸ hnil) hids⟩
  · next hempty =>
    constructor
    · rintro ⟨⟩
      exact ⟨rfl, fun hnil => hempty (List.isEmpty_iff.2 hnil)⟩
    · rintro ⟨rfl, -⟩
      rfl

/-- Seeds are wanted, distinct and few enough, so nothing of them is left out. -/
theorem capped_ids_capped (given : List Int32) :
    (capped maxSeeds ((capped maxSeeds (given.filter wanted)).ids.filter wanted)).ids =
      (capped maxSeeds (given.filter wanted)).ids := by
  have hfirst := areFirst_capped wanted maxSeeds given
  have hwanted : ∀ id ∈ (capped maxSeeds (given.filter wanted)).ids, wanted id = true :=
    fun id hid => (List.mem_filter.1 (mem_firstOccurrences.1 (List.mem_of_mem_take hid))).2
  have hfits : (capped maxSeeds (given.filter wanted)).ids.length ≤ maxSeeds := List.length_take_le _ _
  rw [List.filter_eq_self.2 hwanted]
  show (firstOccurrences id _).take maxSeeds = _
  rw [firstOccurrences_of_nodup hfirst.nodup, List.take_of_length_le hfits]

theorem capped_ids_append {given : List Int32} (more : List Int32)
    (henough : maxSeeds ≤ (given.filter wanted).toFinset.card) :
    (capped maxSeeds ((given ++ more).filter wanted)).ids =
      (capped maxSeeds (given.filter wanted)).ids := by
  rw [← length_firstOccurrences] at henough
  rw [capped, capped, List.filter_append, firstOccurrences_append]
  exact List.take_append_of_le_length henough

theorem map_ids_orElse {left right : Seeds} (hids : left.ids = right.ids) :
    (left.orElse failure).map Seeds.ids = (right.orElse failure).map Seeds.ids := by
  rw [orElse, orElse, isEmpty, isEmpty, hids]
  by_cases hempty : right.ids.isEmpty = true
  · rw [if_pos hempty, if_pos hempty]
  · rw [if_neg hempty, if_neg hempty]
    exact congrArg Except.ok hids

theorem resolves_ofWanted :
    Resolves wanted failure maxSeeds (ofWanted wanted failure maxSeeds) where
  refused _ := ofWanted_of_refused wanted failure maxSeeds
  resolved given hsome hplaces := by
    refine ⟨_, (ofWanted_eq_ok_iff wanted failure maxSeeds).2 ⟨rfl, fun hnil => ?_⟩,
      areFirst_capped wanted maxSeeds given⟩
    obtain ⟨id, hid, hwanted⟩ := hsome
    obtain hnone | hzero := (capped_ids_eq_nil_iff wanted maxSeeds).1 hnil
    · exact Bool.false_ne_true ((hnone id hid).symm.trans hwanted)
    · exact hplaces hzero
  again given seeds hseeds := by
    obtain ⟨rfl, hids⟩ := (ofWanted_eq_ok_iff wanted failure maxSeeds).1 hseeds
    have hagain := capped_ids_capped wanted maxSeeds given
    exact ⟨_, (ofWanted_eq_ok_iff wanted failure maxSeeds).2
      ⟨rfl, fun hnil => hids (hagain.symm.trans hnil)⟩, hagain⟩
  append given more henough :=
    map_ids_orElse failure (capped_ids_append wanted maxSeeds more henough)

end Resolve

/-- A list of ids and the ids of a collection are resolved by one law, in which only the positive
ids of a list count; a failure to look the collection up is passed on. -/
theorem seeds_are_first_distinct (maxSeeds : Nat) :
    Resolves (fun id => decide (0 < id))
        (.badRequest "Need at least 1 manga in the list to generate recommendations.") maxSeeds
        (ofList maxSeeds) ∧
      ∃ resolve, Resolves (fun _ => true)
          (.badRequest "Need at least 1 manga in the collection to generate recommendations.")
          maxSeeds resolve ∧
        ∀ repository user collection,
          (ofCollection repository maxSeeds user collection).result =
            repository.collectionManga user collection >>= resolve := by
  refine ⟨resolves_ofWanted _ .emptyList maxSeeds, _,
    resolves_ofWanted _ .emptyCollection maxSeeds, fun repository user collection => ?_⟩
  cases hfound : repository.collectionManga user collection with
  | error failure =>
    have hlookup : (repository.lookUpCollection user collection).result = .error failure := hfound
    rw [ofCollection, Traced.bind_of_error hlookup]
    rfl
  | ok given =>
    have hlookup : (repository.lookUpCollection user collection).result = .ok given := hfound
    rw [ofCollection, Traced.bind_of_ok hlookup]
    show _ = ofWanted (fun _ => true) .emptyCollection maxSeeds given
    rw [ofWanted, List.filter_eq_self.2 fun _ _ => rfl]

end Seeds

end MangaRecommender
