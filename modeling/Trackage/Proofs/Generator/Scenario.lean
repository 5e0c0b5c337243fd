import Trackage.Generator.Benchmark
import Trackage.Proofs.Allocation.Lengths
import Trackage.Proofs.Generator.Trains
import Trackage.Proofs.Route.Joints
import Trackage.Proofs.Scenario.Gate

/-!
Generated scenarios. Whatever is drawn, the lines of a chain define a track, and the trains that are
placed on it make a valid scenario: they stand on different links and away from the junctions, and
what they request leads from link to link.
-/

namespace Trackage.Chain

theorem Leg.arriving_segment (leg : Leg) : leg.segment.arriving = leg.link.on.second := if_pos rfl

theorem Leg.crossesTo {before after : Leg} (to_end : before.stop = before.link.length)
    (from_start : after.start = 0) (next : after.link.place = before.link.place + 1) :
    before.segment.CrossesTo after.segment := by
  refine ⟨to_end, from_start, ?_, ?_⟩
  · rw [Leg.arriving_segment]
    exact congrArg junction next.symm
  -- No train turns back from one link to another.
  · rintro ⟨sections, -⟩
    exact Link.not_same_on (by omega) sections

/-- A leg to the end of its link is joined to the whole links that come next. -/
theorem isChain_whole {leg : Leg} {beyond : List Link} (to_end : leg.stop = leg.link.length)
    (consecutive : (leg.link :: beyond).IsChain fun link next => next.place = link.place + 1) :
    ((leg :: beyond.map Leg.whole).map Leg.segment).IsChain Segment.Joined := by
  induction beyond generalizing leg with
  | nil => exact .singleton _
  | cons link beyond ih =>
    obtain ⟨next, later⟩ := List.isChain_cons_cons.mp consecutive
    have whole : (Leg.whole link).stop = (Leg.whole link).link.length := rfl
    exact List.isChain_cons_cons.mpr ⟨.inr (Leg.crossesTo to_end rfl next), ih whole later⟩

section Placed

variable {links : List Link} {berth other : Berth} {track : Track}

theorem getElem_place (places : links.map Link.place = List.range' 0 links.length) {link : Link}
    (stored : link ∈ links) : links[link.place]? = some link := by
  obtain ⟨i, inside, rfl⟩ := List.getElem_of_mem stored
  rw [place_getElem places inside, List.getElem?_eq_getElem inside]

/-- The links of a request come one after the other. -/
theorem consecutive_beyond (places : links.map Link.place = List.range' 0 links.length)
    (stored : berth.link ∈ links) (reach : Int) :
    (berth.link :: berth.beyond links reach).IsChain fun link next =>
      next.place = link.place + 1 := by
  have all : links.IsChain fun link next => next.place = link.place + 1 := by
    have ordered : (links.map Link.place).IsChain fun place next => next = place + 1 := by
      rw [places]
      exact List.isChain_range' 0 links.length 1
    rwa [List.isChain_map] at ordered
  obtain ⟨inside, at_place⟩ := List.getElem?_eq_some_iff.mp (getElem_place places stored)
  -- The links from the berth's own on are a part of the chain, whatever the reach.
  have part : berth.link :: berth.beyond links reach =
      (links.drop berth.link.place).take (reach.toNat + 1) := by
    rw [List.drop_eq_getElem_cons inside, at_place, List.take_succ_cons]
    rfl
  rw [part]
  exact (all.drop _).take _

theorem mem_links_of_mem_request (stored : berth.link ∈ links) {reach : Int} {leg : Leg}
    (member : leg ∈ berth.request links reach) : leg.link ∈ links := by
  rcases List.mem_cons.mp member with rfl | later
  · exact stored
  · obtain ⟨link, in_beyond, rfl⟩ := List.mem_map.mp later
    exact List.mem_of_mem_drop (List.mem_of_mem_take in_beyond)

theorem Leg.onTrack_segment (sections : track.sections = links.map Link.on) {leg : Leg}
    (stored : leg.link ∈ links) : leg.segment.onTrack track = true :=
  (track.contains_iff _).mpr ⟨_, sections ▸ List.mem_map_of_mem stored, .refl _⟩

/-- A train stands between the ends of its link. -/
theorem Berth.not_touchesJunction (berth : Berth) (name : String) :
    ¬ berth.held.segment.TouchesJunction name := by
  rintro (⟨starts, -⟩ | ⟨stops, -⟩)
  · exact Nat.ne_of_gt berth.start_pos starts
  · exact Nat.ne_of_lt berth.stop_lt_length stops

/-- Trains on different links are clear of each other. -/
theorem clearOf_held (sections : track.sections = links.map Link.on) (stored : berth.link ∈ links)
    (other_stored : other.link ∈ links) (distinct : berth.link.place ≠ other.link.place) :
    ClearOf [berth.held.segment] [other.held.segment] := by
  have held_on : berth.held.segment.onTrack track = true := Leg.onTrack_segment sections stored
  have other_on : other.held.segment.onTrack track = true :=
    Leg.onTrack_segment sections other_stored
  rw [← Segment.intersects_eq_false_iff held_on other_on, ← Bool.not_eq_true,
    Segment.intersects_iff held_on other_on]
  rintro (⟨same, -⟩ | ⟨name, touches, -⟩)
  · exact Link.not_same_on distinct same
  · exact berth.not_touchesJunction name touches

/-- The routes that trains of berths occupy, and those that they request. -/
def occupiedRoutes (berths : List Berth) : List (List Segment) :=
  berths.map fun berth => [berth.held.segment]

def requestedRoutes (links : List Link) (reach : Int) (berths : List Berth) :
    List (List Segment) :=
  berths.map fun berth => (berth.request links reach).map Leg.segment

/-- A train goes on from where it stands: what it requests is a route, and that starts where the
route that it occupies ends. -/
def GoesOn (held request : List Segment) : Prop :=
  request ≠ [] ∧ (∃ route, Route.build request = .ok route) ∧
    held.getLast?.map Segment.lastLocation = request.head?.map Segment.firstLocation

theorem Berth.goesOn (places : links.map Link.place = List.range' 0 links.length)
    (sections : track.sections = links.map Link.on) (stored : berth.link ∈ links) (reach : Int) :
    GoesOn [berth.held.segment] ((berth.request links reach).map Leg.segment) := by
  have nonempty : (berth.request links reach).map Leg.segment ≠ [] := by simp [request]
  have row_on : LiesOn ((berth.request links reach).map Leg.segment) track :=
    List.forall_mem_map.mpr fun leg member =>
      Leg.onTrack_segment sections (mem_links_of_mem_request stored member)
  have to_end : berth.rest.stop = berth.rest.link.length := rfl
  have joined := isChain_whole to_end (consecutive_beyond places stored reach)
  refine ⟨nonempty, ⟨⟨_, nonempty, (Route.firstJointError?_eq_none_iff row_on).mpr joined⟩,
    Route.build_eq_ok_iff.mpr rfl⟩, ?_⟩
  exact congrArg some (Segment.lastLocation_of_lt berth.stop_lt_length)

/-- Trains on different links of a chain make a valid scenario. -/
theorem valid_routes (places : links.map Link.place = List.range' 0 links.length)
    (sections : track.sections = links.map Link.on) {berths : List Berth}
    (stored : ∀ berth ∈ berths, berth.link ∈ links)
    (distinct : (berths.map fun berth => berth.link.place).Nodup) (reach : Int) :
    Scenario.Valid track (occupiedRoutes berths) (requestedRoutes links reach berths) where
  lengths := by simp [occupiedRoutes, requestedRoutes]
  on_track := by
    refine List.forall_mem_append.mpr ⟨List.forall_mem_map.mpr ?_, List.forall_mem_map.mpr ?_⟩
    · exact fun berth member => List.forall_mem_singleton.mpr
        (Leg.onTrack_segment sections (stored berth member))
    · exact fun berth member => List.forall_mem_map.mpr fun leg in_request =>
        Leg.onTrack_segment sections (mem_links_of_mem_request (stored berth member) in_request)
  occupied_routes := List.forall_mem_map.mpr fun berth _ =>
    ⟨List.cons_ne_nil _ _, Route.exists_build_singleton _⟩
  requested_routes := List.forall_mem_map.mpr fun berth member =>
    .inr (berth.goesOn places sections (stored berth member) reach).2.1
  apart := by
    refine List.pairwise_map.mpr (List.Pairwise.imp_of_mem ?_ (List.pairwise_map.mp distinct))
    exact fun first second => clearOf_held sections (stored _ first) (stored _ second)

/-- The routes are read from what the generator writes. -/
theorem routesOfJson_placed (sections : track.sections = links.map Link.on) {berths : List Berth}
    (stored : ∀ berth ∈ berths, berth.link ∈ links) (reach : Int) :
    routesOfJson track ((placed links reach berths).toJson.getD "occupied") =
        .ok (occupiedRoutes berths) ∧
      routesOfJson track ((placed links reach berths).toJson.getD "requested") =
        .ok (requestedRoutes links reach berths) := by
  have on_track {leg : Leg} (member : leg.link ∈ links) : leg.link.on ∈ track.sections :=
    sections ▸ List.mem_map_of_mem member
  have occupied := @Leg.routesOfJson_stretches track (berths.map fun berth => [berth.held])
    (List.forall_mem_map.mpr fun berth member =>
      List.forall_mem_singleton.mpr (on_track (stored berth member)))
  have requested := @Leg.routesOfJson_stretches track
    (berths.map fun berth => berth.request links reach)
    (List.forall_mem_map.mpr fun berth member leg in_request =>
      on_track (mem_links_of_mem_request (stored berth member) in_request))
  rw [List.map_map, List.map_map] at occupied requested
  exact ⟨occupied, requested⟩

end Placed

/-- A benchmark measures every valid scenario whose requested length is a safe one. -/
theorem exists_runOnce {draws rest : Draws} {count : Int} {lines : List String}
    {lengths : List Int} {reach : Option Int} {trains : Trains} {track : Track}
    {occupied requested : List (List Segment)} (defined : Track.ofLines lines = .ok track)
    (lengths_read : lines.mapM lineLength = .ok lengths)
    (drawn : Chain.trains draws (some count) lengths reach = .ok (trains, rest))
    (occupied_read : routesOfJson track (trains.toJson.getD "occupied") = .ok occupied)
    (requested_read : routesOfJson track (trains.toJson.getD "requested") = .ok requested)
    (valid : Scenario.Valid track occupied requested)
    (moderate : lengthOf requested.flatten < Binary64.safeLength) :
    ∃ row, Benchmark.runOnce draws count lines reach = .ok (row, rest) ∧
      row.trains = occupied.length := by
  obtain ⟨granted, -, ran, served⟩ := valid.exists_served
  obtain ⟨indicators, shown⟩ := Indicators.exists_of? served.lengthOf_le moderate
  refine ⟨⟨occupied.length, indicators.truncated, indicators.blocked, indicators.grantRatio⟩, ?_,
    rfl⟩
  unfold Benchmark.runOnce
  refine Outcome.bind_eq_ok_iff.mpr ⟨track, Outcome.mapError_eq_ok_iff.mpr defined, ?_⟩
  refine Outcome.bind_eq_ok_iff.mpr ⟨lengths, lengths_read, ?_⟩
  refine Outcome.bind_eq_ok_iff.mpr ⟨(trains, rest), drawn, ?_⟩
  refine Outcome.bind_eq_ok_iff.mpr ⟨occupied, occupied_read, ?_⟩
  refine Outcome.bind_eq_ok_iff.mpr ⟨requested, requested_read, ?_⟩
  refine Outcome.bind_eq_ok_iff.mpr ⟨granted, Outcome.mapError_eq_ok_iff.mpr ran, ?_⟩
  rw [shown]
  rfl

/-- Generated scenarios are valid, whatever is drawn. Lines can be drawn when the greatest length and
the number of sections can be written. Whenever they are drawn, they define a track with one section a
line; trains can be drawn for the lengths that are read from the lines, however many are asked for and
however far they are to reach; their routes are read on the track, and the check lets them through.
There are no more trains than asked for, and each requests a route that starts where the one that it
occupies ends. A benchmark measures every such scenario whose requested length is a safe one. -/
theorem scenarios_valid (draws : Draws) (sections : Nat) {least greatest : Int}
    (positive : 1 ≤ least) (ordered : least ≤ greatest) :
    (Text.isWritable greatest = true → Text.isWritable sections = true →
      ∃ lines later,
        Chain.lines draws (some sections) (some least) (some greatest) = .ok (lines, later)) ∧
    ∀ (lines : List String) (later : Draws),
      Chain.lines draws (some sections) (some least) (some greatest) = .ok (lines, later) →
      ∃ track lengths, Track.ofLines lines = .ok track ∧
        track.sections.map Section.text = lines ∧ lines.length = sections ∧
        lines.mapM lineLength = .ok lengths ∧
        ∀ (draws : Draws) (count : Nat) (reach : Int), ∃ trains rest occupied requested,
          Chain.trains draws (some count) lengths (some reach) = .ok (trains, rest) ∧
          routesOfJson track (trains.toJson.getD "occupied") = .ok occupied ∧
          routesOfJson track (trains.toJson.getD "requested") = .ok requested ∧
          Scenario.check track occupied requested = .ok () ∧
          occupied.length ≤ count ∧ List.Forall₂ GoesOn occupied requested ∧
          (lengthOf requested.flatten < Binary64.safeLength →
            ∃ row, Benchmark.runOnce draws count lines (some reach) = .ok (row, rest) ∧
              row.trains = occupied.length) := by
  constructor
  · intro greatest_within sections_within
    exact exists_drawLines draws positive ordered greatest_within sections_within
      (Nat.le_of_eq (Nat.zero_add _))
  intro lines later drawn
  obtain ⟨links, places, rfl, writable⟩ := exists_links positive drawn
  obtain ⟨track, defined, sections_eq⟩ := exists_ofLines places writable
  have lengths_read := mapM_lineLength writable
  have links_length : links.length = sections := by
    have counted := congrArg List.length places
    simpa using counted
  rw [Int.toNat_natCast, ← links_length] at places
  refine ⟨track, _, defined, ?_, by rw [List.length_map, links_length], lengths_read, ?_⟩
  · rw [sections_eq, List.map_map]
    rfl
  intro draws count reach
  obtain ⟨berths, rest, trains_drawn, stored, distinct, few⟩ := exists_trains places draws count reach
  obtain ⟨occupied_read, requested_read⟩ := routesOfJson_placed sections_eq stored reach
  have valid := valid_routes places sections_eq stored distinct reach
  refine ⟨_, rest, _, _, trains_drawn, occupied_read, requested_read,
    Scenario.check_eq_ok_iff_valid.mpr valid, ?_, ?_,
    exists_runOnce defined lengths_read trains_drawn occupied_read requested_read valid⟩
  · simpa [occupiedRoutes] using few
  · refine List.forall₂_map_left_iff.mpr (List.forall₂_map_right_iff.mpr (List.forall₂_same.mpr ?_))
    exact fun berth member => berth.goesOn places sections_eq (stored berth member) reach

/-- Three links are drawn, and two trains of which the first requests the link that the second one
stands on. -/
theorem exists_twoTrains : ∃ (links : List Link) (berths : List Berth),
    links.map Link.place = List.range' 0 3 ∧ (∀ link ∈ links, link.length ≤ 9) ∧
    lines ⟨[4, 1, 7], 0⟩ (some 3) (some 2) (some 12) =
      .ok (links.map fun link => link.on.text, ⟨[4, 1, 7], 3⟩) ∧
    (∀ berth ∈ berths, berth.link ∈ links) ∧ berths.length = 2 ∧
    lengthOf (requestedRoutes links 1 berths).flatten = 14 ∧
    trains ⟨[4, 1, 7], 3⟩ (some 2) (links.map fun link => (link.length : Int)) (some 1) =
      .ok (placed links 1 berths, ⟨[4, 1, 7], 9⟩) := by
  refine ⟨[⟨0, 6, by decide⟩, ⟨1, 3, by decide⟩, ⟨2, 9, by decide⟩],
    [⟨⟨1, 3, by decide⟩, 1, 2, by decide, by decide, by decide⟩,
      ⟨⟨2, 9, by decide⟩, 2, 5, by decide, by decide, by decide⟩], rfl, by decide, ?_, by simp, rfl,
    by decide, rfl⟩
  have short (number : Nat) (few : number ≤ 9) : Text.isWritable number = true :=
    Text.isWritable_of_le few (by decide +kernel)
  -- The three numbers of the row are the steps from the least length on.
  rw [lines_eq_drawLines, show (3 : Int).toNat = 2 + 1 from rfl]
  simp only [List.map_cons, List.map_nil, ← Link.sectionLine_eq]
  refine drawLines_succ_eq_ok_iff.mpr ⟨6, ⟨[4, 1, 7], 1⟩, _, rfl, ?_, ?_, ?_, rfl⟩
  · exact short 6 (by decide)
  · exact short 1 (by decide)
  refine drawLines_succ_eq_ok_iff.mpr ⟨3, ⟨[4, 1, 7], 2⟩, _, rfl, ?_, ?_, ?_, rfl⟩
  · exact short 3 (by decide)
  · exact short 2 (by decide)
  refine drawLines_succ_eq_ok_iff.mpr ⟨9, ⟨[4, 1, 7], 3⟩, _, rfl, ?_, ?_, rfl, rfl⟩
  · exact short 9 (by decide)
  · exact short 3 (by decide)

/-- A benchmark measures two trains of which the first requests the link that the second one stands
on. -/
theorem scenarios_valid_three :
    let draws : Draws := ⟨[4, 1, 7], 0⟩
    (1 : Int) ≤ 2 ∧ (2 : Int) ≤ 12 ∧ ∃ lines later track occupied requested,
      Chain.lines draws (some 3) (some 2) (some 12) = .ok (lines, later) ∧ lines.length = 3 ∧
      Track.ofLines lines = .ok track ∧ Scenario.check track occupied requested = .ok () ∧
      occupied.length = 2 ∧ List.Forall₂ GoesOn occupied requested ∧
      ∃ row rest, Benchmark.runOnce later 2 lines (some 1) = .ok (row, rest) ∧ row.trains = 2 := by
  intro draws
  have positive : (1 : Int) ≤ 2 := by decide
  have ordered : (2 : Int) ≤ 12 := by decide
  obtain ⟨links, berths, places, short, lines_drawn, stored, two, length_eq, trains_drawn⟩ :=
    exists_twoTrains
  have writable : ∀ link ∈ links, link.on.Writable := fun link member =>
    Link.writable_on (Text.isWritable_of_le (short link member) (by decide +kernel))
  obtain ⟨track, lengths, defined, -, count, lengths_read, each⟩ :=
    (scenarios_valid draws 3 positive ordered).2 _ _ lines_drawn
  -- The lengths are those of the links, and the trains that are drawn stand at the two berths.
  obtain rfl := Except.ok.inj ((mapM_lineLength writable).symm.trans lengths_read)
  obtain ⟨trains, rest, occupied, requested, drawn, occupied_read, requested_read, checked, -, goOn,
    measured⟩ := each _ 2 1
  obtain ⟨rfl, rfl⟩ := Prod.mk.inj (Except.ok.inj (trains_drawn.symm.trans drawn))
  obtain ⟨same, also_defined, sections⟩ := exists_ofLines places writable
  obtain rfl := Except.ok.inj (also_defined.symm.trans defined)
  obtain ⟨also_occupied, also_requested⟩ := routesOfJson_placed sections stored 1
  obtain rfl := Except.ok.inj (also_occupied.symm.trans occupied_read)
  obtain rfl := Except.ok.inj (also_requested.symm.trans requested_read)
  have held : (occupiedRoutes berths).length = 2 := by rw [occupiedRoutes, List.length_map, two]
  obtain ⟨row, ran, trains_eq⟩ := measured (by rw [length_eq]; decide +kernel)
  exact ⟨positive, ordered, _, _, same, _, _, lines_drawn, count, defined, checked, held, goOn,
    row, _, ran, trains_eq.trans held⟩

/-- No line is drawn for a section that is too long to be written. -/
theorem not_lines_of_overlong :
    let long : Int := Text.numeralBound
    1 ≤ long ∧ long ≤ long ∧
      Chain.lines ⟨[0], 0⟩ (some 1) (some long) (some long) = .error (.ofNumeral .unwritable) ∧
      ¬ ∃ lines later,
        Chain.lines ⟨[0], 0⟩ (some 1) (some long) (some long) = .ok (lines, later) := by
  intro long
  have positive : 1 ≤ long := by decide +kernel
  have refused := lines_of_not_isWritable ⟨[0], 0⟩ positive (Int.le_refl long)
    (by decide +kernel) (show 0 < 1 by decide)
  refine ⟨positive, Int.le_refl long, refused, ?_⟩
  rintro ⟨lines, later, drawn⟩
  cases refused.symm.trans drawn

end Trackage.Chain
