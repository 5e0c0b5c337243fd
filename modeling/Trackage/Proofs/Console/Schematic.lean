import Mathlib.Algebra.GroupWithZero.Nat
import Trackage.Proofs.Console.Rows
import Trackage.Proofs.Railway.Bookkeeping
import Trackage.Proofs.Segment.Spans
import Trackage.Proofs.Service.Routes
import Trackage.Proofs.Track.Grammar

/-!
What the schematic shows of a track and of the trains on it. Every segment that a train holds has a
line on the row of its own section, over exactly the points of the segment, and the lines of two
trains never meet.
-/

namespace Trackage

/-- The line covers a distance on its row. -/
def Trace.Covers (trace : Trace) (distance : Nat) : Prop :=
  ∃ start stop, trace.start = .natural start ∧ trace.stop = .natural stop ∧
    start ≤ distance ∧ distance ≤ stop

/-- The line of a section lies over all of a row. -/
structure Trace.ShowsSection (trace : Trace) (s : Section) (row : Nat) : Prop where
  on_row : trace.row = row
  start : trace.start = .natural 0
  stop : trace.stop = .natural s.length

/-- The line of a segment that a train holds: it lies on the row of the segment's section, where the
segment covers the section, and is named after the train. -/
structure Trace.Shows (trace : Trace) (track : Track) (t : Train) (s : Segment) : Prop where
  on_row : track.sections[trace.row]? = some s.on
  spans : ∃ start stop, trace.start = .natural start ∧ trace.stop = .natural stop ∧
    s.Spans start stop
  name : trace.name = some s!"Train {t.identifier}"

/-- Lines show a train when they are those of the segments that it holds, in their order. -/
def Train.ShownBy (track : Track) (t : Train) (lines : List Trace) : Prop :=
  List.Forall₂ (fun s trace => trace.Shows track t s) t.allocation lines

/-- Lines on one row have no distance in common. -/
def TracesApart (lines others : List Trace) : Prop :=
  ∀ line ∈ lines, ∀ other ∈ others, line.row = other.row →
    ∀ distance, ¬ (line.Covers distance ∧ other.Covers distance)

/-- The length that trains hold together. -/
def heldLength (trains : List Train) : Nat := (trains.map fun t => t.stop - t.start).sum

/-- The drawing shows exactly what trains hold on a track: it has a row for every section, a line for
each segment that is held and no other lines but those of the sections, and in its title the length
that is held. -/
structure Schematic.Shows (drawn : Schematic) (track : Track) (trains : List Train) : Prop where
  rows : drawn.rows = (track.sections.map Section.text).zipIdx
  distinct : (drawn.rows.map Prod.fst).Nodup
  lines : ∃ (sections : List Trace) (held : List (List Trace)),
    drawn.traces = sections ++ held.flatten ∧
      List.Forall₂ (fun numbered trace => trace.ShowsSection numbered.1 numbered.2)
        track.sections.zipIdx sections ∧
      List.Forall₂ (Train.ShownBy track) trains held ∧
      held.Pairwise TracesApart
  title : drawn.title =
    s!"Track Schematic – {trains.length} trains, {heldLength trains} m allocated"

namespace Schematic

theorem natural_injective {a b : Nat} (same : Json.natural a = .natural b) : a = b :=
  Int.ofNat.inj (Json.int.inj same)

theorem plus_natural (a b : Nat) : (Json.natural a).plus (.natural b) = .ok (.natural (a + b)) :=
  rfl

theorem minus_natural {a b : Nat} (le : b ≤ a) :
    (Json.natural a).minus (.natural b) = .ok (.natural (a - b)) := by
  change Except.ok (Json.int ((a : Int) - b)) = .ok (.int (a - b : Nat))
  rw [Int.ofNat_sub le]

theorem alike_string (a b : String) : (Json.string a).alike (.string b) = (a == b) := by
  simp [Json.alike]

theorem isNamedBy_toJson (s : Section) (e : EndPoint) :
    (shownSection s).first.isNamedBy e.toJson = .ok (decide (e = s.first)) := by
  have branches : (e.branch.text == s.first.branch.text) = decide (e.branch = s.first.branch) := by
    rw [Bool.eq_iff_iff, beq_iff_eq, decide_eq_true_iff]
    exact ⟨Branch.text_injective, congrArg Branch.text⟩
  change (if (Json.string e.junction).alike (.string s.first.junction) then
      Except.ok ((Json.string e.branch.text).alike (.string s.first.branch.text))
    else .ok false) = _
  rw [alike_string, alike_string]
  by_cases junctions : e.junction = s.first.junction
  · simp [junctions, branches, EndPoint.ext_iff]
  · simp [junctions, EndPoint.ext_iff]

/-- A segment lies on its row where it covers its section. -/
theorem span_toJson (s : Segment) : (shownSection s.on).span s.toJson =
    .ok (.natural (s.startFrom s.on.first), .natural (s.stopFrom s.on.first)) := by
  have ordered := s.start_lt_stop
  have fits := s.stop_le_length
  have named := isNamedBy_toJson s.on s.departing
  unfold ShownSection.span
  refine Outcome.bind_eq_ok_iff.mpr ⟨s.departing.toJson, rfl, ?_⟩
  refine Outcome.bind_eq_ok_iff.mpr ⟨_, named, ?_⟩
  by_cases first : s.departing = s.on.first
  · rw [if_pos (decide_eq_true first), Segment.startFrom, Segment.stopFrom, if_pos first,
      if_pos first]
    rfl
  · rw [if_neg (by simpa using first), Segment.startFrom, Segment.stopFrom, if_neg first,
      if_neg first]
    refine Outcome.bind_eq_ok_iff.mpr ⟨.natural s.stop, rfl, ?_⟩
    refine Outcome.bind_eq_ok_iff.mpr ⟨_, minus_natural fits, ?_⟩
    refine Outcome.bind_eq_ok_iff.mpr ⟨.natural s.start, rfl, ?_⟩
    exact Outcome.bind_eq_ok_iff.mpr ⟨_, minus_natural (by omega), rfl⟩

/-- The line of a segment that a train holds. -/
def heldTrace (row : Nat) (color : String) (legend : Bool) (t : Train) (s : Segment) : Trace where
  start := .natural (s.startFrom s.on.first)
  stop := .natural (s.stopFrom s.on.first)
  row := row
  color := color
  width := trainWidth
  name := some s!"Train {t.identifier}"
  ends := none
  group := some s!"train-{t.identifier}"
  legend := legend
  hover := s!"Train {t.identifier}<br>{s.firstLocation.text} -> {s.lastLocation.text}{hoverEnd}"

section Drawing

variable {track : Track} {traces : List Trace} {total : Nat}

/-- A segment that a train holds is drawn on the row of its section. -/
theorem addSegment_toJson (distinct : (track.sections.map Section.text).Nodup) {s : Segment}
    {row : Nat} (found : track.sections[row]? = some s.on) (t : Train) (color : String)
    (legend : Bool) :
    Drawing.addSegment (rowsFor track.sections) color (Service.trainJson t) legend
        ⟨.natural total, traces⟩ s.toJson =
      .ok (some ⟨.natural (total + s.length), traces ++ [heldTrace row color legend t s]⟩) := by
  have row_found : rowAt? (rowsFor track.sections) (.string s.on.text) =
      .ok (some ⟨row, shownSection s.on⟩) := congrArg Except.ok (find?_rowsFor distinct found)
  unfold Drawing.addSegment
  refine Outcome.bind_eq_ok_iff.mpr ⟨some (.string s.on.text), rfl, ?_⟩
  refine Outcome.bind_eq_ok_iff.mpr ⟨_, row_found, ?_⟩
  refine Outcome.bind_eq_ok_iff.mpr ⟨_, span_toJson s, ?_⟩
  exact Outcome.bind_eq_ok_iff.mpr ⟨_, plus_natural total s.length, rfl⟩

theorem heldTrace_shows {s : Segment} {row : Nat} (found : track.sections[row]? = some s.on)
    (t : Train) (color : String) (legend : Bool) :
    (heldTrace row color legend t s).Shows track t s :=
  ⟨found, ⟨_, _, rfl, rfl, s.spans⟩, rfl⟩

/-- The segments of a row are drawn one after the other, and none is left out. -/
theorem exists_addSegments (distinct : (track.sections.map Section.text).Nodup)
    {row : List Segment} (stored : RunsOver row track) (t : Train) (color : String)
    (legend : Bool) :
    ∃ lines, Drawing.addSegments (rowsFor track.sections) color (Service.trainJson t) legend
        ⟨.natural total, traces⟩ (row.map Segment.toJson) =
          .ok ⟨.natural (total + lengthOf row), traces ++ lines⟩ ∧
      List.Forall₂ (fun s trace => trace.Shows track t s) row lines := by
  induction row generalizing total traces legend with
  | nil => exact ⟨[], by rw [List.append_nil]; rfl, .nil⟩
  | cons s row ih =>
    obtain ⟨first, others⟩ := List.forall_mem_cons.mp stored
    obtain ⟨i, inside, section_at⟩ := List.getElem_of_mem first
    have found := List.getElem?_eq_some_iff.mpr ⟨inside, section_at⟩
    obtain ⟨lines, drawn, shown⟩ := ih others false
    refine ⟨_ :: lines, ?_, .cons (heldTrace_shows found t color legend) shown⟩
    rw [List.map_cons, Drawing.addSegments]
    refine Outcome.bind_eq_ok_iff.mpr ⟨_, addSegment_toJson distinct found t color legend, ?_⟩
    rw [lengthOf, ← Nat.add_assoc, List.append_cons traces _ lines]
    exact drawn

/-- The trains are drawn one after the other, with all that they hold. -/
theorem exists_addTrains (distinct : (track.sections.map Section.text).Nodup) {trains : List Train}
    (stored : ∀ t ∈ trains, RunsOver t.allocation track) (index : Nat) :
    ∃ held : List (List Trace),
      Drawing.addTrains (rowsFor track.sections) index ⟨.natural total, traces⟩
          (trains.map Service.trainJson) =
        .ok ⟨.natural (total + (trains.map fun t => lengthOf t.allocation).sum),
          traces ++ held.flatten⟩ ∧
      List.Forall₂ (Train.ShownBy track) trains held := by
  induction trains generalizing total traces index with
  | nil => exact ⟨[], by rw [List.flatten_nil, List.append_nil]; rfl, .nil⟩
  | cons t trains ih =>
    obtain ⟨first, others⟩ := List.forall_mem_cons.mp stored
    obtain ⟨lines, drawn, shown⟩ := exists_addSegments distinct first t (trainColor index) true
    obtain ⟨held, all_drawn, all_shown⟩ := ih others (index + 1)
    refine ⟨lines :: held, ?_, .cons shown all_shown⟩
    rw [List.map_cons, Drawing.addTrains]
    refine Outcome.bind_eq_ok_iff.mpr ⟨some (Segment.rowToJson t.allocation), rfl, ?_⟩
    refine Outcome.bind_eq_ok_iff.mpr ⟨t.allocation.map Segment.toJson, rfl, ?_⟩
    refine Outcome.bind_eq_ok_iff.mpr ⟨_, drawn, ?_⟩
    rw [List.map_cons, List.sum_cons, ← Nat.add_assoc, List.flatten_cons, ← List.append_assoc]
    exact all_drawn

/-- What is drawn for trains that are clear of each other does not meet. -/
theorem pairwise_tracesApart {trains : List Train} {held : List (List Trace)}
    (apart : trains.Pairwise fun t u => ClearOf t.allocation u.allocation)
    (shown : List.Forall₂ (Train.ShownBy track) trains held) : held.Pairwise TracesApart := by
  rw [List.pairwise_iff_getElem] at apart ⊢
  intro i j i_inside j_inside before line in_first other in_second rows distance
  have clear := apart i j (shown.length_eq ▸ i_inside) (shown.length_eq ▸ j_inside) before
  obtain ⟨s, s_in, s_shown⟩ := Outcome.exists_of_mem_right (shown.get _ i_inside) in_first
  obtain ⟨u, u_in, u_shown⟩ := Outcome.exists_of_mem_right (shown.get _ j_inside) in_second
  obtain ⟨start, stop, line_start, line_stop, s_spans⟩ := s_shown.spans
  obtain ⟨first, last, other_start, other_stop, u_spans⟩ := u_shown.spans
  -- The lines are on the row of one section, which both segments cover.
  have sections : s.on = u.on :=
    Option.some.inj (s_shown.on_row.symm.trans (rows ▸ u_shown.on_row))
  rintro ⟨⟨a, b, a_eq, b_eq, line_covers⟩, c, d, c_eq, d_eq, other_covers⟩
  obtain rfl : start = a := natural_injective (line_start.symm.trans a_eq)
  obtain rfl : stop = b := natural_injective (line_stop.symm.trans b_eq)
  obtain rfl : first = c := natural_injective (other_start.symm.trans c_eq)
  obtain rfl : last = d := natural_injective (other_stop.symm.trans d_eq)
  exact s_spans.apart u_spans clear s_in u_in sections distance ⟨line_covers, other_covers⟩

end Drawing

/-- Trains that hold stretches of a track clear of each other are drawn, as long as the length that they
hold can be written. -/
theorem exists_draw {track : Track} {trains : List Train} {data : Json}
    (sections : data.member? "sections" = .ok (some (.ofList Service.sectionJson track.sections)))
    (distinct : (track.sections.map Section.text).Nodup)
    (stored : ∀ t ∈ trains, RunsOver t.allocation track)
    (placed : ∀ t ∈ trains, t.Placed track)
    (apart : trains.Pairwise fun t u => ClearOf t.allocation u.allocation)
    (within : Text.isWritable (heldLength trains) = true) :
    ∃ drawn, draw data (.ofList Service.trainJson trains) = .ok drawn ∧
      drawn.Shows track trains := by
  -- Every segment is drawn, so that the drawn length is all that the trains hold.
  have lengths : (trains.map fun t => lengthOf t.allocation).sum = heldLength trains :=
    congrArg List.sum <| List.map_congr_left fun t t_in =>
      Route.lengthOf_pieces (Nat.le_of_lt (placed t t_in).ordered) (placed t t_in).within
  have read : (track.sections.map Service.sectionJson).mapM ShownSection.ofJson =
      .ok (track.sections.map shownSection) := by
    rw [Outcome.mapM_eq_ok_iff, List.forall₂_map_left_iff, List.forall₂_map_right_iff,
      List.forall₂_same]
    exact fun s _ => ofJson_sectionJson s
  obtain ⟨held, drawn, shown⟩ :=
    @exists_addTrains track ((rowsFor track.sections).map Row.trace) 0 distinct trains stored 0
  rw [lengths, Nat.zero_add] at drawn
  refine ⟨⟨s!"Track Schematic – {trains.length} trains, {heldLength trains} m allocated",
    heightFor track.sections.length,
    (rowsFor track.sections).map fun row => (row.on.text, row.index),
    (rowsFor track.sections).map Row.trace ++ held.flatten⟩, ?_, ?_⟩
  · unfold draw
    refine Outcome.bind_eq_ok_iff.mpr ⟨_, sections, ?_⟩
    refine Outcome.bind_eq_ok_iff.mpr ⟨track.sections.map Service.sectionJson, rfl, ?_⟩
    refine Outcome.bind_eq_ok_iff.mpr ⟨_, read, ?_⟩
    refine Outcome.bind_eq_ok_iff.mpr ⟨trains.map Service.trainJson, rfl, ?_⟩
    rw [rowsOf_shownSection distinct]
    refine Outcome.bind_eq_ok_iff.mpr ⟨_, drawn, ?_⟩
    have total_within : (Json.natural (heldLength trains)).isWritable = true := within
    dsimp only
    rw [if_pos total_within, List.length_map, List.length_map]
    rfl
  · have rows : (rowsFor track.sections).map (fun row => (row.on.text, row.index)) =
        (track.sections.map Section.text).zipIdx := by
      rw [rowsFor, List.map_map, List.zipIdx_map]
      exact List.map_congr_left fun numbered _ => Prod.ext (text_shownSection numbered.1) rfl
    have lines : List.Forall₂ (fun numbered trace => trace.ShowsSection numbered.1 numbered.2)
        track.sections.zipIdx ((rowsFor track.sections).map Row.trace) := by
      rw [rowsFor, List.map_map, List.forall₂_map_right_iff, List.forall₂_same]
      exact fun numbered _ => ⟨rfl, rfl, rfl⟩
    refine ⟨rows, ?_, ⟨_, held, rfl, lines, shown, pairwise_tracesApart apart shown⟩, rfl⟩
    dsimp only
    rw [rows, List.zipIdx_map_fst]
    exact distinct

end Schematic

end Trackage
