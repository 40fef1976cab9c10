/-!
# Maps from ids, in ascending order

A map is the list of its entries with strictly ascending ids, so that two maps with the same
entries are the same list. An update inserts or replaces one entry in place.
-/

namespace MangaRecommender

structure IdMap (Value : Type) where
  entries : List (Int32 × Value)
  ascending : entries.Pairwise fun left right => left.1 < right.1

namespace IdMap

variable {Value : Type}

def empty : IdMap Value := ⟨[], .nil⟩

def keys (map : IdMap Value) : List Int32 := map.entries.map Prod.fst

def isEmpty (map : IdMap Value) : Bool := map.entries.isEmpty

def get? (map : IdMap Value) (id : Int32) : Option Value := map.entries.lookup id

def contains (map : IdMap Value) (id : Int32) : Bool := map.keys.contains id

/-- Changes the value of one id among ascending entries; an absent id is inserted in its place. -/
def updateEntries (id : Int32) (change : Option Value → Value) :
    List (Int32 × Value) → List (Int32 × Value)
  | [] => [(id, change none)]
  | entry :: rest =>
    if id < entry.1 then (id, change none) :: entry :: rest
    else if entry.1 < id then entry :: updateEntries id change rest
    else (entry.1, change (some entry.2)) :: rest

theorem fst_mem_updateEntries {id : Int32} {change : Option Value → Value}
    {entries : List (Int32 × Value)} {entry : Int32 × Value}
    (hentry : entry ∈ updateEntries id change entries) :
    entry.1 = id ∨ entry.1 ∈ entries.map Prod.fst := by
  induction entries with
  | nil => simp [updateEntries] at hentry; simp [hentry]
  | cons first rest ih =>
    simp only [updateEntries] at hentry
    split at hentry
    · rcases List.mem_cons.1 hentry with heq | hmem
      · exact .inl (by simp [heq])
      · exact .inr (List.mem_map_of_mem hmem)
    · split at hentry
      · rcases List.mem_cons.1 hentry with heq | hmem
        · exact .inr (by simp [heq])
        · rcases ih hmem with heq | hold
          · exact .inl heq
          · exact .inr (List.mem_cons_of_mem _ hold)
      · rcases List.mem_cons.1 hentry with heq | hmem
        · exact .inr (by simp [heq])
        · exact .inr (List.mem_cons_of_mem _ (List.mem_map_of_mem hmem))

theorem ascending_updateEntries (id : Int32) (change : Option Value → Value)
    {entries : List (Int32 × Value)}
    (hascending : entries.Pairwise fun left right => left.1 < right.1) :
    (updateEntries id change entries).Pairwise fun left right => left.1 < right.1 := by
  induction entries with
  | nil => simp [updateEntries]
  | cons first rest ih =>
    obtain ⟨hfirst, hrest⟩ := List.pairwise_cons.1 hascending
    simp only [updateEntries]
    split
    · next hbefore =>
      refine List.pairwise_cons.2 ⟨?_, hascending⟩
      intro entry hentry
      rcases List.mem_cons.1 hentry with heq | hmem
      · simpa [heq] using hbefore
      · exact Int32.lt_trans hbefore (hfirst entry hmem)
    · split
      · next hafter =>
        refine List.pairwise_cons.2 ⟨?_, ih hrest⟩
        intro entry hentry
        rcases fst_mem_updateEntries hentry with heq | hold
        · simpa [heq] using hafter
        · obtain ⟨old, hmem, hkey⟩ := List.mem_map.1 hold
          exact hkey ▸ hfirst old hmem
      · exact List.pairwise_cons.2 ⟨hfirst, hrest⟩

def update (map : IdMap Value) (id : Int32) (change : Option Value → Value) : IdMap Value :=
  ⟨updateEntries id change map.entries, ascending_updateEntries id change map.ascending⟩

end IdMap

/-- A set of ids in ascending order. -/
abbrev IdSet := IdMap Unit

namespace IdSet

def insert (set : IdSet) (id : Int32) : IdSet := set.update id fun _ => ()

def ofList (ids : List Int32) : IdSet := ids.foldl insert IdMap.empty

end IdSet

end MangaRecommender
