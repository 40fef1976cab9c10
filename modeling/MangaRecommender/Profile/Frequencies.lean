import MangaRecommender.IdMap

/-!
# Frequencies of attributes

How often each attribute was recorded. An attribute that was never recorded counts zero and is no
entry of the map.
-/

namespace MangaRecommender

abbrev Frequencies := IdMap UInt32

namespace Frequencies

def record (frequencies : Frequencies) (id : Int32) : Frequencies :=
  frequencies.update id fun count => count.getD 0 + 1

def ofList (ids : List Int32) : Frequencies := ids.foldl record IdMap.empty

def count (frequencies : Frequencies) (id : Int32) : UInt32 := (frequencies.get? id).getD 0

/-- The recorded attributes in ascending order. -/
def ids (frequencies : Frequencies) : List Int32 := frequencies.keys

/-- The counts of a list of attributes together, repetitions included. -/
def weightOf (frequencies : Frequencies) (ids : List Int32) : UInt32 :=
  ids.foldl (fun weight id => weight + frequencies.count id) 0

end Frequencies

end MangaRecommender
