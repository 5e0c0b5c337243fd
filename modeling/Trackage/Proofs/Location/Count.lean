import Mathlib.Algebra.GroupWithZero.Nat
import Mathlib.Data.List.Nodup
import Mathlib.Data.List.Perm.Basic
import Trackage.Proofs.Location.Descriptions
import Trackage.Proofs.Location.Membership
import Trackage.Proofs.Track.Scan

/-!
How many points a track has. A set of all its locations keeps one member a point, and these are the
junctions of the track and the points between the ends of its sections.
-/

namespace Trackage

theorem nodup_eraseDups {α : Type} [BEq α] [LawfulBEq α] (values : List α) :
    values.eraseDups.Nodup := by
  cases values with
  | nil => exact List.nodup_nil
  | cons first rest =>
    rw [List.eraseDups_cons, List.nodup_cons, List.mem_eraseDups]
    refine ⟨fun kept => ?_, nodup_eraseDups (rest.filter fun value => !value == first)⟩
    simp at kept
termination_by values.length
decreasing_by exact Nat.lt_succ_of_le (List.length_filter_le _ rest)

/-- Names that are sorted come once each. -/
theorem nodup_sortedNames (names : List String) : (sortedNames names).Nodup :=
  (List.mergeSort_perm _ _).nodup_iff.mpr (nodup_eraseDups names)

/-- The points between the ends of a section. -/
def Section.innerPoints (s : Section) : List Point :=
  (List.range (s.length - 1)).map fun distance => .along s (distance + 1)

namespace Track

/-- All locations of the sections of a track. -/
def descriptions (track : Track) : List Location := track.sections.flatMap Section.descriptions

/-- The points of a track: its junctions, and the points between the ends of its sections. -/
def points (track : Track) : List Point :=
  track.junctions.map .junction ++ track.sections.flatMap Section.innerPoints

variable {track : Track}

theorem mem_descriptions {l : Location} : l ∈ track.descriptions ↔ l.on ∈ track.sections := by
  simp only [descriptions, List.mem_flatMap, Section.mem_descriptions, exists_eq_right']

theorem on_of_stored {l : Location} (stored : l.on ∈ track.sections) : l.On track :=
  (track.contains_iff l.on).mpr ⟨l.on, stored, .refl l.on⟩

theorem point_of_stored {l : Location} (stored : l.on ∈ track.sections) :
    track.point l =
      if l.offset = 0 then .junction l.endPoint.junction
      else .along l.on (l.on.fromFirst l.endPoint l.offset) := by
  have found := (track.sectionAt?_eq_some_iff _ _).mpr ⟨stored, l.endPoint_mem⟩
  simp only [point, found, Option.getD_some]

theorem junction_mem_points {name : String} :
    .junction name ∈ track.points ↔ name ∈ track.junctions := by
  simp [points, Section.innerPoints]

theorem along_mem_points {s : Section} {distance : Nat} :
    .along s distance ∈ track.points ↔
      s ∈ track.sections ∧ 0 < distance ∧ distance < s.length := by
  simp only [points, Section.innerPoints, List.mem_append, List.mem_map, List.mem_flatMap,
    List.mem_range, Point.along.injEq, reduceCtorEq, and_false, exists_false, false_or]
  constructor
  · rintro ⟨_, stored, before, inside, rfl, rfl⟩
    exact ⟨stored, by omega, by omega⟩
  · rintro ⟨stored, positive, inside⟩
    exact ⟨s, stored, distance - 1, by omega, rfl, by omega⟩

/-- The points of a track are those that its locations describe. -/
theorem mem_points_iff {p : Point} :
    p ∈ track.points ↔ ∃ l : Location, l.on ∈ track.sections ∧ track.point l = p := by
  constructor
  -- A junction is described from an end of some section, an inner point from the first end of its own.
  · cases p with
    | junction name =>
      rw [junction_mem_points, mem_junctions]
      rintro ⟨s, stored, e, on_s, rfl⟩
      exact ⟨⟨s, e, 0, on_s, s.length_pos⟩, stored, if_pos rfl⟩
    | along s distance =>
      rw [along_mem_points]
      rintro ⟨stored, positive, inside⟩
      let l : Location := ⟨s, s.first, distance, by simp, inside⟩
      refine ⟨l, stored, ?_⟩
      rw [point_of_stored stored, if_neg (Nat.ne_of_gt positive), Section.fromFirst, if_pos rfl]
  · rintro ⟨l, stored, rfl⟩
    rw [point_of_stored stored]
    split
    next zero =>
      rw [junction_mem_points, mem_junctions]
      exact ⟨l.on, stored, l.endPoint, l.endPoint_mem, rfl⟩
    next between =>
      have inside := l.offset_lt
      rw [along_mem_points, Section.fromFirst]
      split
      · exact ⟨stored, by omega, by omega⟩
      · exact ⟨stored, by omega, by omega⟩

theorem nodup_points (track : Track) : track.points.Nodup := by
  have inner_nodup (s : Section) : s.innerPoints.Nodup := by
    refine List.Nodup.map (fun a b same => ?_) List.nodup_range
    exact Nat.succ.inj (Point.along.inj same).2
  refine List.Nodup.append ?_ ?_ ?_
  · refine List.Nodup.map (fun a b same => ?_) (nodup_sortedNames _)
    exact Point.junction.inj same
  -- Two sections of a track are different, and so are the points along them.
  · refine List.nodup_flatMap.mpr ⟨fun s _ => inner_nodup s, track.apart.imp fun apart => ?_⟩
    intro p on_s on_t
    obtain ⟨_, -, rfl⟩ := List.mem_map.mp on_s
    obtain ⟨_, -, same⟩ := List.mem_map.mp on_t
    obtain ⟨rfl, -⟩ := Point.along.inj same
    exact apart.not_same (.refl _)
  · intro p at_junction between
    obtain ⟨_, -, rfl⟩ := List.mem_map.mp at_junction
    obtain ⟨s, -, on_s⟩ := List.mem_flatMap.mp between
    obtain ⟨_, -, same⟩ := List.mem_map.mp on_s
    cases same

theorem length_points (track : Track) :
    track.points.length =
      track.junctions.length + (track.sections.map fun s => s.length - 1).sum := by
  simp only [points, Section.innerPoints, List.length_append, List.length_map,
    List.length_flatMap, List.length_range]

end Track

namespace LocationSet

variable {track : Track} {set : LocationSet} {locations : List Location}

/-- The points of the members of a set. -/
def points (set : LocationSet) (track : Track) : List Point := set.members.map track.point

/-- A location is taken in only when no member is the same point. -/
theorem nodup_points_insert (set_on : set.On track) {l : Location} (l_on : l.On track)
    (nodup : (set.points track).Nodup) : ((set.insert l).points track).Nodup := by
  unfold insert
  split
  next => exact nodup
  next absent =>
    refine List.nodup_cons.mpr ⟨fun present => absent ?_, nodup⟩
    obtain ⟨member, in_set, same⟩ := List.mem_map.mp present
    refine (contains_iff_equivalent set_on l_on).mpr ⟨member, in_set, ?_⟩
    exact (Location.equivalent_iff_point_eq (set_on member in_set) l_on).mpr same

theorem nodup_points_insertAll (set_on : set.On track) (locations_on : ∀ l ∈ locations, l.On track)
    (nodup : (set.points track).Nodup) : ((set.insertAll locations).points track).Nodup := by
  induction locations generalizing set with
  | nil => exact nodup
  | cons l rest ih =>
    have l_on := locations_on l List.mem_cons_self
    exact ih (set_on.insert l_on) (fun m later => locations_on m (List.mem_cons_of_mem l later))
      (nodup_points_insert set_on l_on nodup)

/-- A set has the points of the list it was made from, for what it finds in either way is the same. -/
theorem mem_points_ofList (locations_on : ∀ l ∈ locations, l.On track) {p : Point} :
    p ∈ (ofList locations).points track ↔ ∃ l ∈ locations, track.point l = p := by
  have set_on := On.ofList locations_on
  have found {l : Location} (l_on : l.On track) :
      (∃ member ∈ (ofList locations).members, member.Equivalent l) ↔
        ∃ m ∈ locations, m.Equivalent l := by
    rw [← contains_iff_equivalent set_on l_on, contains_ofList locations_on l_on]
  rw [points, List.mem_map]
  constructor
  · rintro ⟨member, in_set, rfl⟩
    have member_on := set_on member in_set
    obtain ⟨l, in_list, same⟩ := (found member_on).mp ⟨member, in_set, member.equivalent_refl⟩
    exact ⟨l, in_list, (Location.equivalent_iff_point_eq (locations_on l in_list) member_on).mp same⟩
  · rintro ⟨l, in_list, rfl⟩
    have l_on := locations_on l in_list
    obtain ⟨member, in_set, same⟩ := (found l_on).mpr ⟨l, in_list, l.equivalent_refl⟩
    exact ⟨member, in_set, (Location.equivalent_iff_point_eq (set_on member in_set) l_on).mp same⟩

/-- A set of all locations of a track has a member for each point of the track. -/
theorem size_ofList (complete : ∀ l, l ∈ locations ↔ l.on ∈ track.sections) :
    (ofList locations).size = track.points.length := by
  have locations_on : ∀ l ∈ locations, l.On track :=
    fun l in_list => Track.on_of_stored ((complete l).mp in_list)
  have nodup : ((ofList locations).points track).Nodup :=
    nodup_points_insertAll On.empty locations_on List.nodup_nil
  have same_points : ((ofList locations).points track).Perm track.points := by
    refine (List.perm_ext_iff_of_nodup nodup track.nodup_points).mpr fun p => ?_
    rw [mem_points_ofList locations_on, Track.mem_points_iff]
    simp only [complete]
  rw [← same_points.length_eq, points, List.length_map, size]

/-- The number of points. On a track that adding and removing sections leads to, the set of all
locations of its sections, put in in any order, has one member for each junction of the track and one
for each unit of a section but the last. -/
theorem size_ofList_descriptions (calls : List TrackCall) :
    let reached := Track.run .empty calls
    (∀ l, l ∈ reached.descriptions ↔ l.on ∈ reached.sections) ∧
      ∀ locations : List Location, locations.Perm reached.descriptions →
        (ofList locations).size =
          reached.junctions.length + (reached.sections.map fun s => s.length - 1).sum := by
  intro reached
  refine ⟨fun l => Track.mem_descriptions, fun locations reordered => ?_⟩
  rw [← reached.length_points]
  refine size_ofList fun l => ?_
  rw [reordered.mem_iff, Track.mem_descriptions]

/-- A line and a loop at one of its junctions have two junctions, and nine points each between their
ends. The line is no new section when it is added the other way. -/
theorem size_ofList_descriptions_loop :
    let reached := Track.run .empty [.add .line, .add .loop, .add .lineBack]
    reached.descriptions.reverse.Perm reached.descriptions ∧
      reached.sections = [.line, .loop] ∧
      (ofList reached.descriptions.reverse).size = 20 := by
  intro reached
  have sections : reached.sections = [.line, .loop] := (Track.run_sections _ _).trans (by decide)
  have junctions : reached.junctions.length = 2 := by
    rw [Track.junctions, sections, sortedNames, List.length_mergeSort]
    decide
  have reordered := List.reverse_perm reached.descriptions
  have size := (size_ofList_descriptions [.add .line, .add .loop, .add .lineBack]).2 _ reordered
  refine ⟨reordered, sections, size.trans ?_⟩
  rw [junctions, sections]
  decide

end LocationSet

end Trackage
