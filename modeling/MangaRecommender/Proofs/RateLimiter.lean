import Mathlib
import MangaRecommender.RateLimiter

/-!
# The verdicts of the quotas

A quota admits the first so many checks of each client.  Of two quotas the second one is asked only
about checks that the first one admits, so that it counts fewer of them; still the two together
admit the first checks of each client, as many as the smaller limit, and the checks of other
clients make no difference.
-/

namespace MangaRecommender

/-- One more check of a client takes a place, unless the client has taken all of them. -/
theorem min_count_concat (checks : List IpAddress) (client other : IpAddress) (limit : Nat) :
    min ((checks ++ [client]).count other) limit = min (checks.count other) limit +
      if client = other ∧ checks.count client < limit then 1 else 0 := by
  rw [List.count_append, List.count_singleton]
  by_cases hsame : client = other
  · subst hsame
    simp only [beq_self_eq_true, if_true, true_and]
    split <;> omega
  · rw [beq_eq_false_iff_ne.2 hsame, if_neg Bool.false_ne_true, if_neg (fun h => hsame h.1),
      Nat.add_zero, Nat.add_zero]

namespace Quota

/-- Each client has taken a place for every check in the list, as long as there were places. -/
structure HasSeen (limit : Nat) (checks : List IpAddress) (quota : Quota) : Prop where
  limit_eq : quota.limit = limit
  count_taken : ∀ client, quota.taken.count client = min (checks.count client) limit

theorem hasSeen_full (limit : Nat) : HasSeen limit [] (.full limit) := by
  refine ⟨rfl, fun client => ?_⟩
  simp [full]

variable {limit : Nat} {checks : List IpAddress} {quota : Quota}

/-- The first checks of a client are admitted, up to the limit. -/
theorem HasSeen.check_fst (hseen : HasSeen limit checks quota) (client : IpAddress) :
    (quota.check client).1 = decide (checks.count client < limit) := by
  have hplace : quota.taken.count client < quota.limit ↔ checks.count client < limit := by
    rw [hseen.count_taken, hseen.limit_eq]
    omega
  unfold check
  split
  · next hfree => exact (decide_eq_true (hplace.1 hfree)).symm
  · next hspent => exact (decide_eq_false fun hfree => hspent (hplace.2 hfree)).symm

theorem HasSeen.check_snd (hseen : HasSeen limit checks quota) (client : IpAddress) :
    HasSeen limit (checks ++ [client]) (quota.check client).2 := by
  have hverdict := hseen.check_fst client
  obtain ⟨hlimit, hcount⟩ := hseen
  unfold check at hverdict ⊢
  split
  · next hplace =>
    rw [if_pos hplace] at hverdict
    have hfree := of_decide_eq_true hverdict.symm
    refine ⟨hlimit, fun other => ?_⟩
    rw [min_count_concat, ← hcount other, List.count_cons]
    simp only [beq_iff_eq, hfree, and_true]
  · next hplace =>
    rw [if_neg hplace] at hverdict
    have hspent := of_decide_eq_false hverdict.symm
    refine ⟨hlimit, fun other => ?_⟩
    rw [min_count_concat, if_neg (fun h => hspent h.2), hcount other, Nat.add_zero]

end Quota

namespace RateLimiter

/-- The quota of the minute has seen the checks, and that of the day those of them which the
minute had places for. -/
structure HasSeen (perMinute perDay : Nat) (checks : List IpAddress) (limiter : RateLimiter) :
    Prop where
  minute : limiter.perMinute.HasSeen perMinute checks
  day : ∃ admitted, limiter.perDay.HasSeen perDay admitted ∧
    ∀ client, admitted.count client = min (checks.count client) perMinute

variable {perMinute perDay : Nat} {checks : List IpAddress} {limiter : RateLimiter}

theorem hasSeen_ofLimits (perMinute perDay : Nat) :
    HasSeen perMinute perDay [] (.ofLimits perMinute perDay) :=
  ⟨Quota.hasSeen_full perMinute, [], Quota.hasSeen_full perDay, fun client => by simp⟩

theorem check_of_admitted {client : IpAddress}
    (hadmitted : (limiter.perMinute.check client).1 = true) :
    limiter.check client = ((limiter.perDay.check client).1,
      ⟨(limiter.perMinute.check client).2, (limiter.perDay.check client).2⟩) := by
  simp [check, hadmitted]

theorem check_of_refused {client : IpAddress}
    (hrefused : (limiter.perMinute.check client).1 = false) :
    limiter.check client =
      (false, { limiter with perMinute := (limiter.perMinute.check client).2 }) := by
  simp [check, hrefused]

/-- Only the checks of the same client count, and the smaller limit decides. -/
theorem HasSeen.check_fst (hseen : HasSeen perMinute perDay checks limiter) (client : IpAddress) :
    (limiter.check client).1 = decide (checks.count client < min perMinute perDay) := by
  obtain ⟨hminute, admitted, hday, hadmitted⟩ := hseen
  have hverdict := hminute.check_fst client
  by_cases hfree : checks.count client < perMinute
  · rw [check_of_admitted (hverdict.trans (decide_eq_true hfree)), hday.check_fst client,
      hadmitted client]
    congr 1
    rw [eq_iff_iff]
    omega
  · rw [check_of_refused (hverdict.trans (decide_eq_false hfree))]
    symm
    apply decide_eq_false
    omega

theorem HasSeen.check_snd (hseen : HasSeen perMinute perDay checks limiter) (client : IpAddress) :
    HasSeen perMinute perDay (checks ++ [client]) (limiter.check client).2 := by
  obtain ⟨hminute, admitted, hday, hadmitted⟩ := hseen
  have hverdict := hminute.check_fst client
  by_cases hfree : checks.count client < perMinute
  · rw [check_of_admitted (hverdict.trans (decide_eq_true hfree))]
    refine ⟨hminute.check_snd client, admitted ++ [client], hday.check_snd client, fun other => ?_⟩
    rw [min_count_concat, List.count_append, List.count_singleton, hadmitted other]
    simp only [beq_iff_eq, hfree, and_true]
  · rw [check_of_refused (hverdict.trans (decide_eq_false hfree))]
    refine ⟨hminute.check_snd client, admitted, hday, fun other => ?_⟩
    rw [min_count_concat, if_neg (fun h => hfree h.2), hadmitted other, Nat.add_zero]

/-- The verdict at each place of a list of checks, by the checks in front of it. -/
theorem HasSeen.getElem?_checkAll (hseen : HasSeen perMinute perDay checks limiter)
    (clients : List IpAddress) (index : Nat) :
    (limiter.checkAll clients)[index]? = clients[index]?.map fun client =>
      decide ((checks ++ clients.take index).count client < min perMinute perDay) := by
  induction clients generalizing checks limiter index with
  | nil => simp [checkAll]
  | cons first rest ih =>
    cases index with
    | zero => simp [checkAll, hseen.check_fst first]
    | succ index =>
      rw [checkAll, List.getElem?_cons_succ, List.getElem?_cons_succ, List.take_succ_cons,
        ih (hseen.check_snd first)]
      simp only [List.append_assoc, List.singleton_append]

end RateLimiter

end MangaRecommender
