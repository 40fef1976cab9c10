import Mathlib
import MangaRecommender.Cache.ReadThrough

/-!
# What reaches the store

A write or an eviction either reaches the store as a whole or leaves the cache as it was, and only
the set of failing operations decides which.  Reading depends on nothing but that set and the
payload under the key.
-/

namespace MangaRecommender

/-- The operation that a call needs. -/
def CacheCall.operation : CacheCall → CacheOperation
  | get _ => .get
  | set _ _ => .set
  | delete _ => .delete
  | deleteMany _ => .deleteMany

namespace PayloadStore

theorem erase_nil (store : PayloadStore) : store.erase [] = store := by
  cases store
  simp [erase]

/-- The keys are those under which a payload is found. -/
theorem mem_keys_iff {store : PayloadStore} {key : String} :
    key ∈ store.keys ↔ ∃ payload, store.get? key = some payload := by
  rw [keys, List.mem_mergeSort, ← Option.isSome_iff_exists, get?, List.lookup_isSome_iff]
  simp

end PayloadStore

namespace Cache

/-- None of the calls is set to fail. -/
def Succeeds (cache : Cache) (calls : List CacheCall) : Prop :=
  ∀ call ∈ calls, call.operation ∉ cache.failing

instance (cache : Cache) (calls : List CacheCall) : Decidable (cache.Succeeds calls) :=
  inferInstanceAs (Decidable (∀ call ∈ calls, call.operation ∉ cache.failing))

theorem succeeds_singleton {cache : Cache} {call : CacheCall} :
    cache.Succeeds [call] ↔ call.operation ∉ cache.failing :=
  List.forall_mem_singleton

theorem mutate_of_mem {cache : Cache} {operation : CacheOperation}
    (hfailing : operation ∈ cache.failing) (change : PayloadStore → PayloadStore) :
    (cache.mutate operation change).2 = cache := by
  simp [mutate, hfailing]

theorem mutate_of_not_mem {cache : Cache} {operation : CacheOperation}
    (hfailing : operation ∉ cache.failing) (change : PayloadStore → PayloadStore) :
    (cache.mutate operation change).2 = { cache with store := change cache.store } := by
  simp [mutate, hfailing]

/-! ## Reading -/

section Read

variable {Value : Type} {decode : String → Option Value} {cache : Cache} {key : CacheKey}

/-- A hit needs a working cache and a payload that decodes. -/
theorem read_eq_some_iff {value : Value} :
    cache.read decode key = some value ↔
      .get ∉ cache.failing ∧
        ∃ payload, cache.store.get? key.text = some payload ∧ decode payload = some value := by
  by_cases hfailing : CacheOperation.get ∈ cache.failing
  · simp [read, get, hfailing]
  · cases hpayload : cache.store.get? key.text with
    | none => simp [read, get, hfailing, hpayload]
    | some payload => simp [read, get, hfailing, hpayload]

theorem read_congr {left right : Cache} (hfailing : left.failing = right.failing)
    (hpayload : left.store.get? key.text = right.store.get? key.text) :
    left.read decode key = right.read decode key := by
  rw [read, read, get, get, hfailing, hpayload]

end Read

/-! ## Writing and evicting -/

theorem failing_write (cache : Cache) (key : CacheKey) (payload : String) :
    (cache.write key payload).failing = cache.failing := by
  by_cases hfailing : CacheOperation.set ∈ cache.failing
  · rw [write, set, mutate_of_mem hfailing]
  · rw [write, set, mutate_of_not_mem hfailing]

theorem get?_write (cache : Cache) (key : CacheKey) (payload text : String) :
    (cache.write key payload).store.get? text =
      if .set ∉ cache.failing ∧ text = key.text then some payload else cache.store.get? text := by
  by_cases hfailing : CacheOperation.set ∈ cache.failing
  · rw [write, set, mutate_of_mem hfailing, if_neg fun hwritten => hwritten.1 hfailing]
  · rw [write, set, mutate_of_not_mem hfailing, PayloadStore.get?_insert]
    simp only [hfailing, not_false_eq_true, true_and]

theorem evict_of_succeeds {cache : Cache} {keys : List CacheKey}
    (hsucceeds : cache.Succeeds (evictionCalls keys)) :
    cache.evict keys = { cache with store := cache.store.erase (keys.map CacheKey.text) } := by
  match keys with
  | [] =>
    rw [List.map_nil, PayloadStore.erase_nil]
    rfl
  | [key] => exact mutate_of_not_mem (succeeds_singleton.1 hsucceeds) _
  | first :: second :: more => exact mutate_of_not_mem (succeeds_singleton.1 hsucceeds) _

theorem evict_of_not_succeeds {cache : Cache} {keys : List CacheKey}
    (hfails : ¬cache.Succeeds (evictionCalls keys)) : cache.evict keys = cache := by
  match keys with
  | [] => rfl
  | [key] => exact mutate_of_mem (not_not.1 fun hnot => hfails (succeeds_singleton.2 hnot)) _
  | first :: second :: more =>
    exact mutate_of_mem (not_not.1 fun hnot => hfails (succeeds_singleton.2 hnot)) _

theorem failing_evict (cache : Cache) (keys : List CacheKey) :
    (cache.evict keys).failing = cache.failing := by
  by_cases hsucceeds : cache.Succeeds (evictionCalls keys)
  · rw [evict_of_succeeds hsucceeds]
  · rw [evict_of_not_succeeds hsucceeds]

theorem get?_evict (cache : Cache) (keys : List CacheKey) (text : String) :
    (cache.evict keys).store.get? text =
      if cache.Succeeds (evictionCalls keys) ∧ text ∈ keys.map CacheKey.text then none
      else cache.store.get? text := by
  by_cases hsucceeds : cache.Succeeds (evictionCalls keys)
  · rw [evict_of_succeeds hsucceeds, PayloadStore.get?_erase]
    simp only [hsucceeds, true_and]
  · rw [evict_of_not_succeeds hsucceeds, if_neg fun hevicted => hsucceeds hevicted.1]

end Cache

end MangaRecommender
