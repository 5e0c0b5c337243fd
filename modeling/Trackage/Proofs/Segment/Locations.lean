import Mathlib.Data.List.Forall2
import Trackage.Segment
import Trackage.Proofs.Location.Membership

/-!
Locations of segments. Counted from its start, a segment has one location for each distance up to
its length. Rows of segments are clear of one another when they have no point in common, which does
not depend on how their sections are written.
-/

namespace Trackage

attribute [ext] Segment

/-- The junction at the far end of a section. -/
def Location.far (on : Section) (endPoint : EndPoint) : Location :=
  ⟨on, on.opposite endPoint, 0, on.opposite_mem_ends endPoint, on.length_pos⟩

namespace Segment

theorem build_eq_ok_iff {on : Section} {departing : EndPoint} {start stop : Int} {s : Segment} :
    build on departing start stop = .ok s ↔
      s.on = on ∧ s.departing = departing ∧ (s.start : Int) = start ∧ (s.stop : Int) = stop := by
  unfold build
  constructor
  · intro built
    split at built
    · split at built
      next ordered =>
        cases built
        exact ⟨rfl, rfl, by simp only; omega, by simp only; omega⟩
      next => cases built
    · cases built
  -- The segment itself says that its offsets are in order and within its section.
  · rintro ⟨rfl, rfl, rfl, rfl⟩
    have ordered := s.start_lt_stop
    have within := s.stop_le_length
    rw [dif_pos s.departing_mem, dif_pos (by omega)]
    rfl

/-- The location at a distance from the start of a segment. -/
def locationAfter (s : Segment) (distance : Nat) : Location :=
  if within : s.start + distance < s.on.length then
    ⟨s.on, s.departing, s.start + distance, s.departing_mem, within⟩
  else .far s.on s.departing

theorem locationAfter_length (s : Segment) : s.locationAfter s.length = s.lastLocation := by
  have stop : s.start + s.length = s.stop := Nat.add_sub_of_le (Nat.le_of_lt s.start_lt_stop)
  unfold locationAfter lastLocation
  simp only [stop]
  rfl

theorem locations_eq_map (s : Segment) :
    s.locations = (List.range (s.length + 1)).map s.locationAfter := by
  -- The location at the stop comes last, and apart from the others.
  rw [List.range_succ, List.map_append, List.map_singleton, locationAfter_length]
  unfold locations
  congr 1
  apply List.ext_getElem
  · simp
  · intro i _ _
    rw [List.getElem_ofFn, List.getElem_map, List.getElem_range]
    have within : s.start + i < s.on.length := by
      have fits := s.stop_le_length
      have inside : i < s.length := by simpa using ‹i < (List.ofFn _).length›
      unfold length at inside
      omega
    simp only [locationAfter, within, dif_pos, locationAt]

/-- Counted from the start, the locations of a segment are those at distances up to its length. -/
theorem mem_locations {s : Segment} {l : Location} :
    l ∈ s.locations ↔ ∃ distance ≤ s.length, s.locationAfter distance = l := by
  rw [locations_eq_map, List.mem_map]
  simp only [List.mem_range, Nat.lt_succ_iff]

theorem add_le_stop {s : Segment} {distance : Nat} (within : distance ≤ s.length) :
    s.start + distance ≤ s.stop := by
  have ordered := s.start_lt_stop
  simp only [length] at within
  omega

/-- The offsets of a segment are those at the distances up to its length. -/
theorem exists_distance {s : Segment} {offset : Nat} (after : s.start ≤ offset)
    (before : offset ≤ s.stop) : ∃ distance ≤ s.length, offset = s.start + distance := by
  obtain ⟨distance, rfl⟩ := Nat.exists_eq_add_of_le after
  refine ⟨distance, ?_, rfl⟩
  simp only [length]
  omega

theorem locationAfter_on (s : Segment) (distance : Nat) : (s.locationAfter distance).on = s.on := by
  unfold locationAfter
  split <;> rfl

theorem on_locationAfter {s : Segment} {track : Track} (s_on : s.onTrack track = true)
    (distance : Nat) : (s.locationAfter distance).On track := by
  simp only [Location.On, s.locationAfter_on]
  exact s_on

theorem locations_on {s : Segment} {track : Track} (s_on : s.onTrack track = true) :
    ∀ l ∈ s.locations, l.On track := by
  intro l on_s
  obtain ⟨distance, -, rfl⟩ := mem_locations.mp on_s
  exact on_locationAfter s_on distance

theorem locationAfter_piece (s : Segment) {start stop : Nat} (ordered : start < stop)
    (within : stop ≤ s.length) (distance : Nat) :
    (s.piece start stop ordered within).locationAfter distance =
      s.locationAfter (start + distance) := by
  simp only [locationAfter, piece, Nat.add_assoc]

@[simp] theorem length_piece (s : Segment) {start stop : Nat} (ordered : start < stop)
    (within : stop ≤ s.length) : (s.piece start stop ordered within).length = stop - start := by
  simp only [length, piece]
  omega

theorem Same.locationAfter_equivalent {s t : Segment} (same : s.Same t) (distance : Nat) :
    (s.locationAfter distance).Equivalent (t.locationAfter distance) := by
  -- The distance may reach the far end, which is one end-point however the section is written.
  obtain ⟨sections, departing, starts, -⟩ := same
  unfold locationAfter
  rw [Location.equivalent_iff_cases]
  by_cases within : s.start + distance < s.on.length
  · have also : t.start + distance < t.on.length := by rw [← starts, ← sections.1]; exact within
    rw [dif_pos within, dif_pos also]
    exact .inr (.inl ⟨departing, congrArg (· + distance) starts⟩)
  · have also : ¬ t.start + distance < t.on.length := by rw [← starts, ← sections.1]; exact within
    rw [dif_neg within, dif_neg also]
    have arriving : s.on.opposite s.departing = t.on.opposite t.departing :=
      departing ▸ sections.opposite_eq s.departing_mem
    exact .inr (.inl ⟨arriving, rfl⟩)

theorem Same.length_eq {s t : Segment} (same : s.Same t) : s.length = t.length := by
  unfold length
  rw [same.2.2.1, same.2.2.2]

end Segment

/-- All segments of a row are on the track. -/
def LiesOn (row : List Segment) (track : Track) : Prop := ∀ s ∈ row, s.onTrack track = true

/-- A segment on a track can be written if the sections of the track can. -/
theorem Segment.isWritable_of_onTrack {track : Track} {s : Segment}
    (sections : ∀ t ∈ track.sections, Text.isWritable t.length = true)
    (s_on : s.onTrack track = true) : s.isWritable = true := by
  obtain ⟨stored, member, same⟩ := (track.contains_iff s.on).mp s_on
  rw [isWritable, ← same.1]
  exact sections stored member

/-- Two rows of segments have no point in common. -/
def ClearOf (row other : List Segment) : Prop :=
  ∀ l ∈ locationsOf row, ∀ m ∈ locationsOf other, ¬ l.Equivalent m

/-- A location is a point of a row of segments. -/
def Touches (row : List Segment) (l : Location) : Prop := ∃ m ∈ locationsOf row, m.Equivalent l

theorem mem_locationsOf {row : List Segment} {l : Location} :
    l ∈ locationsOf row ↔ ∃ s ∈ row, l ∈ s.locations := List.mem_flatMap

@[simp] theorem locationsOf_nil : locationsOf [] = [] := rfl

@[simp] theorem locationsOf_cons (s : Segment) (row : List Segment) :
    locationsOf (s :: row) = s.locations ++ locationsOf row := rfl

@[simp] theorem locationsOf_singleton (s : Segment) : locationsOf [s] = s.locations :=
  List.flatMap_singleton Segment.locations s

theorem locationsOf_append (row other : List Segment) :
    locationsOf (row ++ other) = locationsOf row ++ locationsOf other := List.flatMap_append

theorem LiesOn.tail {s : Segment} {row : List Segment} {track : Track}
    (lies : LiesOn (s :: row) track) : LiesOn row track :=
  fun t later => lies t (List.mem_cons_of_mem s later)

theorem LiesOn.locations_on {row : List Segment} {track : Track} (lies : LiesOn row track) :
    ∀ l ∈ locationsOf row, l.On track := by
  intro l member
  obtain ⟨s, in_row, on_s⟩ := mem_locationsOf.mp member
  exact Segment.locations_on (lies s in_row) l on_s

theorem ClearOf.symm {row other : List Segment} (clear : ClearOf row other) : ClearOf other row :=
  fun l in_other m in_row same => clear m in_row l in_other same.symm

theorem clearOf_append_left {row added other : List Segment} :
    ClearOf (row ++ added) other ↔ ClearOf row other ∧ ClearOf added other := by
  unfold ClearOf
  rw [locationsOf_append]
  exact List.forall_mem_append

theorem clearOf_append_right {row other added : List Segment} :
    ClearOf row (other ++ added) ↔ ClearOf row other ∧ ClearOf row added := by
  constructor
  · intro clear
    exact (clearOf_append_left.mp clear.symm).imp ClearOf.symm ClearOf.symm
  · rintro ⟨clear, clear_added⟩
    exact (clearOf_append_left.mpr ⟨clear.symm, clear_added.symm⟩).symm

/-- A row that covers no point beyond a clear one is clear itself. -/
theorem ClearOf.mono {track : Track} {row wider other : List Segment} (row_on : LiesOn row track)
    (wider_on : LiesOn wider track) (other_on : LiesOn other track) (clear : ClearOf wider other)
    (covered : ∀ l ∈ locationsOf row, Touches wider l) : ClearOf row other := by
  intro l in_row m in_other same
  obtain ⟨k, in_wider, met⟩ := covered l in_row
  have l_on := row_on.locations_on l in_row
  have met_other := met.trans (wider_on.locations_on k in_wider) l_on
    (other_on.locations_on m in_other) same
  exact clear k in_wider m in_other met_other

theorem haveCommonPoint_eq_false_iff {track : Track} {row other : List Segment}
    (row_on : LiesOn row track) (other_on : LiesOn other track) :
    haveCommonPoint (locationsOf row) (locationsOf other) = false ↔ ClearOf row other := by
  rw [← Bool.not_eq_true, haveCommonPoint_iff row_on.locations_on other_on.locations_on]
  unfold ClearOf
  simp only [not_exists, not_and]

theorem sameSegments_iff {a b : List Segment} :
    sameSegments a b = true ↔ List.Forall₂ Segment.Same a b := by
  unfold sameSegments
  rw [Bool.and_eq_true, beq_iff_eq, List.forall₂_iff_zip]
  simp only [List.all_eq_true, decide_eq_true_eq, Prod.forall]

theorem sameSegments_refl (row : List Segment) : sameSegments row row = true := by
  rw [sameSegments_iff, List.forall₂_same]
  exact fun s _ => ⟨.refl s.on, rfl, rfl, rfl⟩

theorem lengthOf_eq_of_same {a b : List Segment} (same : List.Forall₂ Segment.Same a b) :
    lengthOf a = lengthOf b := by
  induction same with
  | nil => rfl
  | cons first _ ih => simp only [lengthOf, first.length_eq, ih]

theorem LiesOn.of_same {track : Track} {a b : List Segment} (b_on : LiesOn b track)
    (same : List.Forall₂ Segment.Same a b) : LiesOn a track := by
  induction same with
  | nil => exact b_on
  | @cons s t a b first _ ih =>
    have t_on : track.contains t.on = true := b_on t List.mem_cons_self
    intro u member
    rcases List.mem_cons.mp member with rfl | later
    · exact track.contains_of_same first.1.symm t_on
    · exact ih b_on.tail u later

theorem touches_of_same {a b : List Segment} (same : List.Forall₂ Segment.Same a b) :
    ∀ l ∈ locationsOf a, Touches b l := by
  induction same with
  | nil => intro l absent; cases absent
  | @cons s t a b first _ ih =>
    intro l member
    rw [locationsOf_cons, List.mem_append] at member
    rcases member with on_s | later
    · obtain ⟨distance, within, rfl⟩ := Segment.mem_locations.mp on_s
      have on_t : t.locationAfter distance ∈ t.locations :=
        Segment.mem_locations.mpr ⟨distance, first.length_eq ▸ within, rfl⟩
      have met := first.locationAfter_equivalent distance
      exact ⟨_, List.mem_append_left _ on_t, met.symm⟩
    · obtain ⟨m, present, met⟩ := ih l later
      exact ⟨m, List.mem_append_right _ present, met⟩

theorem forall₂_same_symm {a b : List Segment} (same : List.Forall₂ Segment.Same a b) :
    List.Forall₂ Segment.Same b a := by
  refine List.Forall₂.flip (same.imp fun s t pair => ?_)
  exact ⟨pair.1.symm, pair.2.1.symm, pair.2.2.1.symm, pair.2.2.2.symm⟩

/-- A stretch of the section of ten units, from its first end. -/
def Segment.ahead (start stop : Nat) (ordered : start < stop := by decide)
    (within : stop ≤ 10 := by decide) : Segment :=
  ⟨.line, Section.line.first, start, stop, by simp, ordered, within⟩

/-- A stretch of the section of ten units, from its second end. -/
def Segment.homeward (start stop : Nat) (ordered : start < stop := by decide)
    (within : stop ≤ 10 := by decide) : Segment :=
  ⟨.line, Section.line.second, start, stop, by simp, ordered, within⟩

/-- A stretch of the same section, written the other way and described from its second end. -/
def Segment.back (start stop : Nat) (ordered : start < stop := by decide)
    (within : stop ≤ 10 := by decide) : Segment :=
  ⟨.lineBack, Section.line.second, start, stop, by decide, ordered, within⟩

@[simp] theorem Segment.onTrack_ahead {start stop : Nat} (ordered : start < stop)
    (within : stop ≤ 10) : (ahead start stop ordered within).onTrack (.single .line) = true :=
  (Track.contains_single _ _).mpr (.refl _)

@[simp] theorem Segment.onTrack_back {start stop : Nat} (ordered : start < stop)
    (within : stop ≤ 10) : (back start stop ordered within).onTrack (.single .line) = true :=
  (Track.contains_single _ _).mpr ⟨rfl, .inr ⟨rfl, rfl⟩⟩

/-- A stretch of one unit of the section that is too long to be written. -/
def Segment.onOverlong (start : Nat) (near : start < 9 := by decide) : Segment :=
  ⟨.overlong, Section.overlong.first, start, start + 1, by simp, Nat.lt_succ_self start,
    Nat.le_trans near (by decide +kernel)⟩

theorem Segment.isWritable_onOverlong {start : Nat} (near : start < 9) :
    (onOverlong start near).isWritable = false :=
  (by decide +kernel : Text.isWritable Section.overlong.length = false)

/-- What two trains at the two ends of the section of ten units hold. -/
def aheadHeld : Segment := .ahead 0 3
def backHeld : Segment := .back 0 3

/-- What both trains request: nearly all of the rest. -/
def aheadWanted : Segment := .ahead 3 9
def backWanted : Segment := .back 3 9

/-- The stretches of the train at the second end, on the section as it is stored. -/
def homeHeld : Segment := .homeward 0 3
def homeWanted : Segment := .homeward 3 9

def headOnOccupied : List (List Segment) := [[aheadHeld], [backHeld]]

def headOnRequested : List (List Segment) := [[aheadWanted], [backWanted]]

theorem headOn_liesOn :
    (∀ route ∈ headOnOccupied, LiesOn route (.single .line)) ∧
      ∀ request ∈ headOnRequested, LiesOn request (.single .line) := by
  simp [headOnOccupied, headOnRequested, aheadHeld, backHeld, aheadWanted, backWanted, LiesOn]

end Trackage
