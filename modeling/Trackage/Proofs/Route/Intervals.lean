import Trackage.Proofs.Route.Pieces
import Trackage.Proofs.Segment.Reversal

/-!
Segments as intervals. Counted from an end of its section, a segment covers the offsets from one
number to another, and it touches the junctions at those of its ends that are ends of the section.
From these numbers it can be told whether segments and routes meet, without looking at their points.
-/

namespace Trackage

namespace Segment

/-- Where a segment begins, counted from an end of its section. -/
def startFrom (s : Segment) (e : EndPoint) : Nat :=
  if s.departing = e then s.start else s.on.length - s.stop

def stopFrom (s : Segment) (e : EndPoint) : Nat :=
  if s.departing = e then s.stop else s.on.length - s.start

/-- The segment begins or ends at the junction. -/
def TouchesJunction (s : Segment) (junction : String) : Prop :=
  (s.start = 0 ∧ s.departing.junction = junction) ∨
    (s.stop = s.on.length ∧ s.arriving.junction = junction)

instance (s : Segment) (junction : String) : Decidable (s.TouchesJunction junction) :=
  inferInstanceAs (Decidable (_ ∨ _))

/-- The segment covers an offset that is counted from an end of a section. -/
def CoversFrom (s : Segment) (on : Section) (e : EndPoint) (offset : Nat) : Prop :=
  s.on.Same on ∧ s.startFrom e ≤ offset ∧ offset ≤ s.stopFrom e

instance (s : Segment) (on : Section) (e : EndPoint) (offset : Nat) :
    Decidable (s.CoversFrom on e offset) :=
  inferInstanceAs (Decidable (_ ∧ _))

/-- A segment meets another one at an offset of the latter when it covers the point there, or when
the point is an end of the section and it touches the junction. -/
def MeetsAt (t s : Segment) (offset : Nat) : Prop :=
  t.CoversFrom s.on s.departing offset ∨
    (offset = 0 ∧ t.TouchesJunction s.departing.junction) ∨
    (offset = s.on.length ∧ t.TouchesJunction s.arriving.junction)

instance (t s : Segment) (offset : Nat) : Decidable (t.MeetsAt s offset) :=
  inferInstanceAs (Decidable (_ ∨ _))

section Meeting

variable {track : Track} {s t : Segment} {on : Section} {e : EndPoint} {distance : Nat}

theorem CoversFrom.touches_near (e_mem : e ∈ on.ends) (covers : t.CoversFrom on e 0) :
    t.TouchesJunction e.junction := by
  obtain ⟨sections, begins, -⟩ := covers
  have fits := t.stop_le_length
  -- A segment that departs from the end starts there, any other stops there.
  by_cases same_end : t.departing = e
  · simp only [startFrom, if_pos same_end] at begins
    exact .inl ⟨Nat.le_zero.mp begins, congrArg EndPoint.junction same_end⟩
  · have e_of_t := (sections.mem_ends_iff e).mpr e_mem
    have arrives := Section.eq_opposite t.departing_mem e_of_t same_end
    simp only [startFrom, if_neg same_end] at begins
    exact .inr ⟨by omega, congrArg EndPoint.junction arrives.symm⟩

theorem CoversFrom.from_far {offset : Nat} (e_mem : e ∈ on.ends) (covers : t.CoversFrom on e offset)
    (within : offset ≤ on.length) :
    t.CoversFrom on (on.opposite e) (on.length - offset) := by
  obtain ⟨sections, begins, ends⟩ := covers
  have lengths := sections.1
  have ordered := t.start_lt_stop
  have fits := t.stop_le_length
  refine ⟨sections, ?_⟩
  by_cases same_end : t.departing = e
  · have other_end : t.departing ≠ on.opposite e := same_end ▸ (on.opposite_ne _).symm
    simp only [startFrom, stopFrom, if_pos same_end] at begins ends
    simp only [startFrom, stopFrom, if_neg other_end]
    omega
  · have departs := Section.eq_opposite e_mem ((sections.mem_ends_iff _).mp t.departing_mem)
      (Ne.symm same_end)
    simp only [startFrom, stopFrom, if_neg same_end] at begins ends
    simp only [startFrom, stopFrom, if_pos departs]
    omega

theorem CoversFrom.touches_far (e_mem : e ∈ on.ends) (covers : t.CoversFrom on e on.length) :
    t.TouchesJunction (on.opposite e).junction := by
  have from_far := covers.from_far e_mem (Nat.le_refl _)
  rw [Nat.sub_self] at from_far
  exact from_far.touches_near (on.opposite_mem_ends e)

/-- The junctions that a segment has a point in common with are those that it touches. -/
theorem meets_junction_iff {m : Location} (zero : m.offset = 0) :
    (∃ l ∈ t.locations, l.Equivalent m) ↔ t.TouchesJunction m.endPoint.junction := by
  have ordered := t.start_lt_stop
  have fits := t.stop_le_length
  have length_eq : t.length = t.stop - t.start := rfl
  constructor
  · rintro ⟨_, on_t, same⟩
    obtain ⟨distance, within, rfl⟩ := mem_locations.mp on_t
    rw [Location.equivalent_iff_of_zero zero] at same
    obtain ⟨offset_zero, junctions⟩ := same
    rcases Nat.lt_or_ge (t.start + distance) t.on.length with inside | at_far
    · rw [locationAfter_of_lt inside] at offset_zero junctions
      simp only at offset_zero
      exact .inl ⟨by omega, junctions⟩
    · rw [locationAfter_of_le at_far] at junctions
      exact .inr ⟨by omega, junctions⟩
  -- The location at the junction is the first one or the last.
  · rintro (⟨starts, junctions⟩ | ⟨stops, junctions⟩)
    · refine ⟨_, mem_locations.mpr ⟨0, Nat.zero_le _, rfl⟩, ?_⟩
      rw [locationAfter_of_lt (by omega), Location.equivalent_iff_of_zero zero]
      exact ⟨starts, junctions⟩
    · refine ⟨_, mem_locations.mpr ⟨t.length, Nat.le_refl _, rfl⟩, ?_⟩
      rw [locationAfter_of_le (by omega), Location.equivalent_iff_of_zero zero]
      exact ⟨rfl, junctions⟩

/-- A point between the ends of its section is met by the segments that cover it. -/
theorem meets_between_iff (s_on : s.onTrack track = true) (t_on : t.onTrack track = true)
    (positive : 0 < s.start + distance) (inside : s.start + distance < s.on.length) :
    (∃ l ∈ t.locations, l.Equivalent (s.locationAfter distance)) ↔
      t.CoversFrom s.on s.departing (s.start + distance) := by
  have ordered := t.start_lt_stop
  have fits := t.stop_le_length
  have length_eq : t.length = t.stop - t.start := rfl
  rw [locationAfter_of_lt inside]
  simp only [CoversFrom, startFrom, stopFrom]
  constructor
  · rintro ⟨_, on_t, same⟩
    obtain ⟨from_t, within, rfl⟩ := mem_locations.mp on_t
    rcases Nat.lt_or_ge (t.start + from_t) t.on.length with short | at_far
    · rw [locationAfter_of_lt short, Location.equivalent_iff_cases] at same
      simp only at same
      rcases same with ⟨-, zero, -⟩ | ⟨ends, offsets⟩ | ⟨sections, ends, fills⟩
      · omega
      · have sections : t.on.Same s.on :=
          Track.same_of_mem_ends t_on s_on (ends ▸ t.departing_mem) s.departing_mem
        simp only [if_pos ends]
        exact ⟨sections, by omega⟩
      · simp only [if_neg ends]
        exact ⟨sections, by omega⟩
    -- The far end of the other segment's section is a junction, and this point is not.
    · rw [locationAfter_of_le at_far] at same
      exact absurd same (Location.not_equivalent_of_zero rfl (Nat.ne_of_gt positive))
  -- The point is described once more, from the end that the other segment departs from.
  · rintro ⟨sections, covers⟩
    have lengths := sections.1
    by_cases ends : t.departing = s.departing
    · simp only [if_pos ends] at covers
      refine ⟨_, mem_locations.mpr ⟨s.start + distance - t.start, by omega, rfl⟩, ?_⟩
      rw [locationAfter_of_lt (by omega), Location.equivalent_iff_cases]
      refine .inr (.inl ⟨ends, ?_⟩)
      simp only
      omega
    · simp only [if_neg ends] at covers
      let from_far := t.on.length - (s.start + distance)
      refine ⟨_, mem_locations.mpr ⟨from_far - t.start, by omega, rfl⟩, ?_⟩
      rw [locationAfter_of_lt (by omega), Location.equivalent_iff_cases]
      refine .inr (.inr ⟨sections, ends, ?_⟩)
      simp only
      omega

/-- The points that two segments have in common are found where one meets the other. -/
theorem meetsAt_iff (s_on : s.onTrack track = true) (t_on : t.onTrack track = true)
    (within : distance ≤ s.length) :
    (∃ l ∈ t.locations, l.Equivalent (s.locationAfter distance)) ↔
      t.MeetsAt s (s.start + distance) := by
  have within_section := Nat.le_trans (add_le_stop within) s.stop_le_length
  have positive := s.on.length_pos
  rcases Nat.eq_zero_or_pos (s.start + distance) with at_near | after
  -- At an end of the section covering the point comes down to touching the junction.
  · rw [locationAfter_of_lt (by omega), meets_junction_iff at_near]
    constructor
    · exact fun touches => .inr (.inl ⟨at_near, touches⟩)
    · rintro (covers | ⟨-, touches⟩ | ⟨absent, -⟩)
      · rw [at_near] at covers
        exact covers.touches_near s.departing_mem
      · exact touches
      · omega
  · rcases Nat.lt_or_ge (s.start + distance) s.on.length with inside | beyond
    · rw [meets_between_iff s_on t_on after inside]
      constructor
      · exact .inl
      · rintro (covers | ⟨absent, -⟩ | ⟨absent, -⟩)
        · exact covers
        · omega
        · omega
    · have at_far : s.start + distance = s.on.length := Nat.le_antisymm within_section beyond
      rw [locationAfter_of_le beyond, meets_junction_iff rfl, at_far]
      constructor
      · exact fun touches => .inr (.inr ⟨rfl, touches⟩)
      · rintro (covers | ⟨absent, -⟩ | ⟨-, touches⟩)
        · exact covers.touches_far s.departing_mem
        · omega
        · exact touches

theorem intersects_iff_meetsAt (s_on : s.onTrack track = true) (t_on : t.onTrack track = true) :
    s.intersects t = true ↔ ∃ offset, s.start ≤ offset ∧ offset ≤ s.stop ∧ t.MeetsAt s offset := by
  rw [intersects, haveCommonPoint_iff (locations_on s_on) (locations_on t_on)]
  constructor
  · rintro ⟨_, on_s, m, on_t, same⟩
    obtain ⟨distance, within, rfl⟩ := mem_locations.mp on_s
    have met := (meetsAt_iff s_on t_on within).mp ⟨m, on_t, same.symm⟩
    exact ⟨s.start + distance, Nat.le_add_right _ _, add_le_stop within, met⟩
  · rintro ⟨offset, after, before, met⟩
    obtain ⟨distance, within, rfl⟩ := exists_distance after before
    obtain ⟨m, on_t, same⟩ := (meetsAt_iff s_on t_on within).mpr met
    exact ⟨_, mem_locations.mpr ⟨distance, within, rfl⟩, m, on_t, same.symm⟩

/-- Segments intersect when the intervals that they cover on one section overlap, or when they touch
one junction. -/
theorem intersects_iff (s_on : s.onTrack track = true) (t_on : t.onTrack track = true) :
    s.intersects t = true ↔
      (s.on.Same t.on ∧
        max s.start (t.startFrom s.departing) ≤ min s.stop (t.stopFrom s.departing)) ∨
      ∃ junction, s.TouchesJunction junction ∧ t.TouchesJunction junction := by
  have ordered := s.start_lt_stop
  have fits := s.stop_le_length
  rw [intersects_iff_meetsAt s_on t_on]
  constructor
  -- An offset at an end of the section is an end of the segment, which so touches the junction too.
  · rintro ⟨offset, after, before, ⟨sections, begins, ends⟩ | ⟨zero, touches⟩ | ⟨far, touches⟩⟩
    · have overlap := Nat.le_trans (Nat.max_le.mpr ⟨after, begins⟩) (Nat.le_min.mpr ⟨before, ends⟩)
      exact .inl ⟨sections.symm, overlap⟩
    · exact .inr ⟨_, .inl ⟨by omega, rfl⟩, touches⟩
    · exact .inr ⟨_, .inr ⟨by omega, rfl⟩, touches⟩
  · rintro (⟨sections, overlap⟩ | ⟨junction, ⟨starts, rfl⟩ | ⟨stops, rfl⟩, touches⟩)
    -- The greater of the two starts is an offset that both intervals contain.
    · obtain ⟨before, ends⟩ := Nat.le_min.mp overlap
      have covers : t.CoversFrom s.on s.departing _ := ⟨sections.symm, Nat.le_max_right _ _, ends⟩
      exact ⟨_, Nat.le_max_left _ _, before, .inl covers⟩
    · exact ⟨0, by omega, by omega, .inr (.inl ⟨rfl, touches⟩)⟩
    · exact ⟨s.on.length, by omega, by omega, .inr (.inr ⟨rfl, touches⟩)⟩

theorem intersects_eq_false_iff (s_on : s.onTrack track = true) (t_on : t.onTrack track = true) :
    s.intersects t = false ↔ ClearOf [s] [t] := by
  rw [← haveCommonPoint_eq_false_iff (List.forall_mem_singleton.mpr s_on)
    (List.forall_mem_singleton.mpr t_on), locationsOf_singleton, locationsOf_singleton]
  rfl

end Meeting

end Segment

theorem haveCommonPoint_comm {track : Track} {a b : List Location} (a_on : ∀ l ∈ a, l.On track)
    (b_on : ∀ l ∈ b, l.On track) : haveCommonPoint a b = haveCommonPoint b a := by
  rw [Bool.eq_iff_iff, haveCommonPoint_iff a_on b_on, haveCommonPoint_iff b_on a_on]
  constructor
  · exact fun ⟨l, in_a, m, in_b, same⟩ => ⟨m, in_b, l, in_a, same.symm⟩
  · exact fun ⟨m, in_b, l, in_a, same⟩ => ⟨l, in_a, m, in_b, same.symm⟩

namespace Route

variable {track : Track} {r q : Route}

theorem intersects_comm (r_on : r.onTrack track = true) (q_on : q.onTrack track = true) :
    r.intersects q = q.intersects r :=
  haveCommonPoint_comm (onTrack_iff.mp r_on).locations_on (onTrack_iff.mp q_on).locations_on

theorem intersects_iff_segments (r_on : r.onTrack track = true) (q_on : q.onTrack track = true) :
    r.intersects q = true ↔ ∃ s ∈ r.segments, ∃ t ∈ q.segments, s.intersects t = true := by
  have r_lies := onTrack_iff.mp r_on
  have q_lies := onTrack_iff.mp q_on
  have segments_meet {s t : Segment} (s_in : s ∈ r.segments) (t_in : t ∈ q.segments) :
      s.intersects t = true ↔ ∃ l ∈ s.locations, ∃ m ∈ t.locations, l.Equivalent m :=
    haveCommonPoint_iff (Segment.locations_on (r_lies s s_in))
      (Segment.locations_on (q_lies t t_in))
  refine (haveCommonPoint_iff r_lies.locations_on q_lies.locations_on).trans ?_
  constructor
  · rintro ⟨l, in_r, m, in_q, same⟩
    obtain ⟨s, s_in, on_s⟩ := mem_locationsOf.mp in_r
    obtain ⟨t, t_in, on_t⟩ := mem_locationsOf.mp in_q
    exact ⟨s, s_in, t, t_in, (segments_meet s_in t_in).mpr ⟨l, on_s, m, on_t, same⟩⟩
  · rintro ⟨s, s_in, t, t_in, meets⟩
    obtain ⟨l, on_s, m, on_t, same⟩ := (segments_meet s_in t_in).mp meets
    exact ⟨l, mem_locationsOf.mpr ⟨s, s_in, on_s⟩, m, mem_locationsOf.mpr ⟨t, t_in, on_t⟩, same⟩

end Route

/-- The interval law. Segments of one track intersect exactly when, both counted from one end of
their section, the later of their starts is not after the earlier of their stops, or when they begin
or end at one junction. Routes intersect exactly when a segment of one intersects a segment of the
other, whichever of the two is asked. -/
theorem intersects_by_intervals (track : Track) :
    (∀ s t : Segment, s.onTrack track = true → t.onTrack track = true →
      (s.intersects t = true ↔
        (s.on.Same t.on ∧
          max s.start (t.startFrom s.departing) ≤ min s.stop (t.stopFrom s.departing)) ∨
        ∃ junction, s.TouchesJunction junction ∧ t.TouchesJunction junction)) ∧
    (∀ r q : Route, r.onTrack track = true → q.onTrack track = true →
      (r.intersects q = true ↔ ∃ s ∈ r.segments, ∃ t ∈ q.segments, s.intersects t = true) ∧
        r.intersects q = q.intersects r) := by
  refine ⟨fun s t s_on t_on => Segment.intersects_iff s_on t_on, fun r q r_on q_on => ?_⟩
  exact ⟨Route.intersects_iff_segments r_on q_on, Route.intersects_comm r_on q_on⟩

/-- A stretch of the loop from either of its ends. -/
def Segment.loopOut (stop : Nat) (ordered : 0 < stop := by decide)
    (within : stop ≤ 10 := by decide) : Segment :=
  ⟨.loop, Section.loop.first, 0, stop, by simp, ordered, within⟩

def Segment.loopHome (stop : Nat) (ordered : 0 < stop := by decide)
    (within : stop ≤ 10 := by decide) : Segment :=
  ⟨.loop, Section.loop.second, 0, stop, by simp, ordered, within⟩

/-- The two ends of a loop have no offset in common, and yet they meet at the junction. -/
theorem intersects_by_intervals_loop :
    let s : Segment := .loopOut 3
    let t : Segment := .loopHome 4
    let out : Route := ⟨[s], List.cons_ne_nil _ _, rfl⟩
    let home : Route := ⟨[t], List.cons_ne_nil _ _, rfl⟩
    out.onTrack (.single .loop) = true ∧ home.onTrack (.single .loop) = true ∧
      ¬ max s.start (t.startFrom s.departing) ≤ min s.stop (t.stopFrom s.departing) ∧
      s.intersects t = true ∧ out.intersects home = true ∧ home.intersects out = true := by
  intro s t out home
  obtain ⟨segments, routes⟩ := intersects_by_intervals (.single .loop)
  have s_on : s.onTrack (.single .loop) = true := (Track.contains_single _ _).mpr (.refl _)
  have t_on : t.onTrack (.single .loop) = true := (Track.contains_single _ _).mpr (.refl _)
  have out_on : out.onTrack (.single .loop) = true := by simp [out, Route.onTrack, s_on]
  have home_on : home.onTrack (.single .loop) = true := by simp [home, Route.onTrack, t_on]
  have meet := (segments s t s_on t_on).mpr (.inr ⟨"j1", by decide, by decide⟩)
  obtain ⟨routes_meet, symmetric⟩ := routes out home out_on home_on
  have met := routes_meet.mpr
    ⟨s, List.mem_singleton_self s, t, List.mem_singleton_self t, meet⟩
  exact ⟨out_on, home_on, by decide, meet, met, symmetric ▸ met⟩

end Trackage
