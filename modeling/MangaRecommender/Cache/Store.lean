import MangaRecommender.Failure

/-!
# The cache

Payload texts under keys. Any of the four operations may be set to fail; a failing call answers a
failure and changes nothing.
-/

namespace MangaRecommender

/-- Payloads under distinct keys. -/
structure PayloadStore where
  entries : List (String × String)

namespace PayloadStore

def empty : PayloadStore := ⟨[]⟩

def get? (store : PayloadStore) (key : String) : Option String := store.entries.lookup key

/-- The store without the given keys. -/
def erase (store : PayloadStore) (keys : List String) : PayloadStore :=
  ⟨store.entries.filter fun entry => !keys.contains entry.1⟩

def insert (store : PayloadStore) (key payload : String) : PayloadStore :=
  ⟨(key, payload) :: (store.erase [key]).entries⟩

/-- The keys in ascending order. -/
def keys (store : PayloadStore) : List String :=
  (store.entries.map Prod.fst).mergeSort fun left right => decide (left ≤ right)

theorem get?_empty (key : String) : empty.get? key = none := rfl

theorem get?_erase (store : PayloadStore) (erased : List String) (key : String) :
    (store.erase erased).get? key = if key ∈ erased then none else store.get? key := by
  simp only [get?, erase, List.contains_eq_mem]
  induction store.entries with
  | nil => simp
  | cons entry rest ih =>
    obtain ⟨entryKey, payload⟩ := entry
    by_cases herased : entryKey ∈ erased
    · rw [List.filter_cons_of_neg (by simp [herased]), ih]
      by_cases hkey : key = entryKey
      · simp [hkey, herased]
      · simp [List.lookup_cons, beq_eq_false_iff_ne.2 hkey]
    · rw [List.filter_cons_of_pos (by simp [herased]), List.lookup_cons, List.lookup_cons, ih]
      by_cases hkey : key = entryKey
      · simp [hkey, herased]
      · simp [beq_eq_false_iff_ne.2 hkey]

theorem get?_insert (store : PayloadStore) (inserted payload key : String) :
    (store.insert inserted payload).get? key =
      if key = inserted then some payload else store.get? key := by
  by_cases hkey : key = inserted
  · simp [get?, insert, hkey]
  · have := get?_erase store [inserted] key
    simp only [List.mem_singleton, hkey, if_false] at this
    simp only [get?, insert, List.lookup_cons, beq_eq_false_iff_ne.2 hkey, hkey, if_false] at this ⊢
    exact this

end PayloadStore

inductive CacheOperation
  | get
  | set
  | delete
  | deleteMany
  deriving DecidableEq, Repr

/-- A call of the cache, with the texts of its keys. -/
inductive CacheCall
  | get (key : String)
  | set (key payload : String)
  | delete (key : String)
  | deleteMany (keys : List String)
  deriving DecidableEq, Repr

structure Cache where
  store : PayloadStore
  failing : List CacheOperation

namespace Cache

def empty : Cache := ⟨.empty, []⟩

def unavailable : Failure := .internal "cache unavailable"

def get (cache : Cache) (key : String) : Except Failure (Option String) :=
  if cache.failing.contains .get then .error unavailable else .ok (cache.store.get? key)

/-- The store after a mutation, which a failing operation leaves as it was. -/
def mutate (cache : Cache) (operation : CacheOperation)
    (change : PayloadStore → PayloadStore) : Except Failure Unit × Cache :=
  if cache.failing.contains operation then (.error unavailable, cache)
  else (.ok (), { cache with store := change cache.store })

def set (cache : Cache) (key payload : String) : Except Failure Unit × Cache :=
  cache.mutate .set (·.insert key payload)

def delete (cache : Cache) (key : String) : Except Failure Unit × Cache :=
  cache.mutate .delete (·.erase [key])

def deleteMany (cache : Cache) (keys : List String) : Except Failure Unit × Cache :=
  cache.mutate .deleteMany (·.erase keys)

end Cache

end MangaRecommender
