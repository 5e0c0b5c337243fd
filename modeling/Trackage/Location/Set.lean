import Std.Data.HashMap
import Trackage.Location.Basic

/-!
Sets of locations. A set keeps the first of several members that are one point, and finds members
by key.
-/

namespace Trackage

/-- A set of locations: its members, the newest first, and the members under each key. -/
structure LocationSet where
  members : List Location
  buckets : Std.HashMap Location.Key (List Location)
  bucketed : ∀ k : Location.Key,
    buckets.getD k [] = members.filter fun member => member.key == k

namespace LocationSet

def empty : LocationSet := ⟨[], ∅, by simp⟩

instance : Inhabited LocationSet := ⟨empty⟩

def size (set : LocationSet) : Nat := set.members.length

def contains (set : LocationSet) (l : Location) : Bool :=
  (set.buckets.getD l.key []).any fun member => decide (member.Equivalent l)

/-- A location is in a set when some member is the same one. -/
theorem contains_iff (set : LocationSet) (l : Location) :
    set.contains l = true ↔ ∃ member ∈ set.members, member.SameMember l := by
  unfold contains
  rw [set.bucketed]
  simp only [List.any_eq_true, List.mem_filter, beq_iff_eq, decide_eq_true_eq, and_assoc,
    Location.SameMember]

def push (set : LocationSet) (l : Location) : LocationSet where
  members := l :: set.members
  buckets := set.buckets.insert l.key (l :: set.buckets.getD l.key [])
  bucketed := by
    intro k
    rw [Std.HashMap.getD_insert]
    by_cases same : l.key = k
    · subst same; simp [set.bucketed]
    · simp [same, set.bucketed]

def insert (set : LocationSet) (l : Location) : LocationSet :=
  if set.contains l then set else set.push l

def insertAll (set : LocationSet) (locations : List Location) : LocationSet :=
  locations.foldl insert set

def ofList (locations : List Location) : LocationSet := empty.insertAll locations

/-- The members of both sets; where the two share a point, the first set's member stays. -/
def union (first second : LocationSet) : LocationSet := first.insertAll second.members.reverse

def isDisjoint (set : LocationSet) (locations : List Location) : Bool :=
  !locations.any set.contains

end LocationSet

/-- Whether two lists of locations have a point in common. -/
def haveCommonPoint (a b : List Location) : Bool := !(LocationSet.ofList a).isDisjoint b

end Trackage
