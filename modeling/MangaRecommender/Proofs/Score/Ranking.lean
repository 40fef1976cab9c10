import Mathlib
import MangaRecommender.Score

/-!
# The order of a ranking

Every candidate gets its item for itself, and the ranking puts the items in order: a higher score
first, and among equal scores a lower id first.  Doubles have a total order and ids have one, so
that two items which may stand on either side of each other agree in score and id.  If no two
candidates share their id there is only one such order, and nothing is left of the order in which
the candidates came.
-/

namespace MangaRecommender

theorem Binary64.totalCompare_eq_gt_iff {left right : Binary64} :
    left.totalCompare right = .gt ↔ right.rank < left.rank :=
  Int.compare_eq_gt

namespace Score

/-- The item of a candidate, in which no other candidate has a part. -/
def scored (features : Features) (profile : Profile) (manga : Manga) : ScoredManga :=
  withDetails manga (details features profile profile.averageRating profile.averageYear manga)

/-- The score is higher in the total order of doubles, or it is the same and the id is no higher. -/
def RanksAbove (left right : ScoredManga) : Prop :=
  left.score.totalCompare right.score = .gt ∨ left.score = right.score ∧ left.id ≤ right.id

section Order

variable {left middle right : ScoredManga}

theorem ranksBefore_iff : ranksBefore left right = true ↔ RanksAbove left right := by
  have hscore : left.score.rank = right.score.rank ↔ left.score = right.score :=
    ⟨Binary64.rank_injective, congrArg Binary64.rank⟩
  simp only [ranksBefore, RanksAbove, Binary64.totalCompare_eq_gt_iff, Bool.or_eq_true,
    Bool.and_eq_true, decide_eq_true_eq, hscore]

theorem RanksAbove.trans (hleft : RanksAbove left middle) (hright : RanksAbove middle right) :
    RanksAbove left right := by
  simp only [RanksAbove, Binary64.totalCompare_eq_gt_iff] at *
  obtain hleft | ⟨hscore, hid⟩ := hleft
  · refine .inl ?_
    obtain hright | ⟨hscore, -⟩ := hright
    · exact hright.trans hleft
    · rwa [← hscore]
  · rw [hscore]
    exact hright.imp_right fun hright => ⟨hright.1, Int32.le_trans hid hright.2⟩

theorem RanksAbove.total (left right : ScoredManga) :
    RanksAbove left right ∨ RanksAbove right left := by
  simp only [RanksAbove, Binary64.totalCompare_eq_gt_iff]
  obtain hlower | hequal | hhigher := lt_trichotomy left.score.rank right.score.rank
  · exact .inr (.inl hlower)
  · have hscore := Binary64.rank_injective hequal
    exact (Int32.le_total left.id right.id).imp (fun hid => .inr ⟨hscore, hid⟩)
      fun hid => .inr ⟨hscore.symm, hid⟩
  · exact .inl (.inl hhigher)

/-- Items that may stand on either side of each other have the same id. -/
theorem RanksAbove.id_eq (hleft : RanksAbove left right) (hright : RanksAbove right left) :
    left.id = right.id := by
  simp only [RanksAbove, Binary64.totalCompare_eq_gt_iff] at hleft hright
  obtain hleft | ⟨hscore, hleft⟩ := hleft
  · obtain hright | ⟨hscore, -⟩ := hright
    · exact absurd hleft hright.asymm
    · exact absurd (congrArg Binary64.rank hscore) hleft.ne
  · obtain hright | ⟨-, hright⟩ := hright
    · exact absurd (congrArg Binary64.rank hscore) hright.ne
    · exact Int32.le_antisymm hleft hright

/-- If no two items share their id, their order is determined. -/
theorem eq_of_perm_of_ranksAbove {first second : List ScoredManga} (hperm : first.Perm second)
    (hids : (second.map ScoredManga.id).Nodup) (hfirst : first.Pairwise RanksAbove)
    (hsecond : second.Pairwise RanksAbove) : first = second := by
  refine List.Perm.eq_of_pairwise ?_ hfirst hsecond hperm
  intro left right hleft hright habove hbelow
  exact List.inj_on_of_nodup_map hids (hperm.mem_iff.1 hleft) hright (habove.id_eq hbelow)

end Order

section Ranking

variable (features : Features) (profile : Profile)

theorem rankAll_perm (candidates : List Manga) :
    (rankAll features profile candidates).Perm (candidates.map (scored features profile)) :=
  List.mergeSort_perm _ _

/-- Scoring and ranking rearrange the candidates. -/
theorem map_id_rankAll (candidates : List Manga) :
    ((rankAll features profile candidates).map ScoredManga.id).Perm
      (candidates.map Manga.id) := by
  refine ((rankAll_perm features profile candidates).map ScoredManga.id).trans ?_
  rw [List.map_map]
  exact List.Perm.refl _

theorem nodup_map_id_rankAll {candidates : List Manga} (hids : (candidates.map Manga.id).Nodup) :
    ((rankAll features profile candidates).map ScoredManga.id).Nodup :=
  (map_id_rankAll features profile candidates).nodup_iff.2 hids

variable {features profile} in
theorem exists_row_of_mem_rankAll {candidates : List Manga} {item : ScoredManga}
    (hitem : item ∈ rankAll features profile candidates) :
    ∃ row ∈ candidates, item = scored features profile row := by
  obtain ⟨row, hrow, hscored⟩ := List.mem_map.1 ((rankAll_perm _ _ _).mem_iff.1 hitem)
  exact ⟨row, hrow, hscored.symm⟩

theorem pairwise_rankAll (candidates : List Manga) :
    (rankAll features profile candidates).Pairwise RanksAbove := by
  refine (List.pairwise_mergeSort ?_ ?_ _).imp ranksBefore_iff.1
  · intro left middle right hleft hright
    exact ranksBefore_iff.2 ((ranksBefore_iff.1 hleft).trans (ranksBefore_iff.1 hright))
  · intro left right
    rw [Bool.or_eq_true, ranksBefore_iff, ranksBefore_iff]
    exact RanksAbove.total left right

/-- With distinct ids the order of the candidates is of no account. -/
theorem rankAll_eq_of_perm {first second : List Manga} (hperm : first.Perm second)
    (hids : (second.map Manga.id).Nodup) :
    rankAll features profile first = rankAll features profile second := by
  refine eq_of_perm_of_ranksAbove ?_ (nodup_map_id_rankAll features profile hids)
    (pairwise_rankAll features profile first) (pairwise_rankAll features profile second)
  exact ((rankAll_perm features profile first).trans (hperm.map _)).trans
    (rankAll_perm features profile second).symm

/-- To rank some of the candidates is to leave the others out of the ranking. -/
theorem rankAll_filter {candidates : List Manga} (hids : (candidates.map Manga.id).Nodup)
    (keeps : Int32 → Bool) :
    rankAll features profile (candidates.filter fun manga => keeps manga.id) =
      (rankAll features profile candidates).filter fun item => keeps item.id := by
  refine eq_of_perm_of_ranksAbove ?_ ?_ (pairwise_rankAll features profile _)
    ((pairwise_rankAll features profile candidates).filter _)
  · have hscored : (candidates.filter fun manga => keeps manga.id).map (scored features profile) =
        (candidates.map (scored features profile)).filter fun item => keeps item.id := by
      rw [List.filter_map]
      rfl
    refine (rankAll_perm features profile _).trans ?_
    rw [hscored]
    exact ((rankAll_perm features profile candidates).filter _).symm
  · exact (nodup_map_id_rankAll features profile hids).sublist (List.filter_sublist.map _)

/-- Whatever the candidates, their attributes and the profile, a ranking consists of the items that
the candidates get when each is ranked alone, in order of score and id; and if their ids are
distinct it is the same ranking in whatever order they are given. -/
theorem ranking_orders_single_items (candidates : List Manga) :
    (rankAll features profile candidates).Perm (candidates.map (scored features profile)) ∧
      (∀ manga, rankAll features profile [manga] = [scored features profile manga]) ∧
      (rankAll features profile candidates).Pairwise RanksAbove ∧
      ∀ arranged : List Manga, arranged.Perm candidates → (candidates.map Manga.id).Nodup →
        rankAll features profile arranged = rankAll features profile candidates := by
  refine ⟨rankAll_perm features profile candidates, fun manga => ?_,
    pairwise_rankAll features profile candidates, fun arranged hperm hids => ?_⟩
  · exact List.perm_singleton.1 (rankAll_perm features profile [manga])
  · exact rankAll_eq_of_perm features profile hperm hids

end Ranking

/-- Two manga that have nothing in common with the seeds, so that both score zero. -/
def unrelated : List Manga :=
  [⟨9, "Ninth", some .nan, none, none⟩, ⟨2, "Second", none, none, none⟩]

theorem ranking_orders_single_items_unrelated :
    unrelated.reverse.Perm unrelated ∧ (unrelated.map Manga.id).Nodup ∧
      rankAll .empty .empty unrelated.reverse = rankAll .empty .empty unrelated := by
  have hperm : unrelated.reverse.Perm unrelated := List.reverse_perm _
  have hids : (unrelated.map Manga.id).Nodup := by decide
  obtain ⟨-, -, -, harranged⟩ := ranking_orders_single_items .empty .empty unrelated
  exact ⟨hperm, hids, harranged unrelated.reverse hperm hids⟩

end Score

end MangaRecommender
