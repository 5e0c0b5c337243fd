import Mathlib.Data.List.Range
import Trackage.Proofs.Generator.Chain
import Trackage.Proofs.Payload.RoundTrip

/-!
Trains on a chain of junctions. Every train that is placed stands within a link, with some of the link
before it and behind it, and requests the rest of its link and whole links beyond. Links that are too
short for that are left without a train, in what is occupied and in what is requested alike.
-/

namespace Trackage.Chain

/-- A stretch of a link, in the direction of the chain. -/
structure Leg where
  link : Link
  start : Nat
  stop : Nat
  start_lt_stop : start < stop
  stop_le_length : stop ≤ link.length

namespace Leg

/-- The leg over all of a link. -/
def whole (link : Link) : Leg := ⟨link, 0, link.length, link.length_pos, Nat.le_refl _⟩

/-- The leg as the generator writes it. -/
def stretch (leg : Leg) : Stretch := ⟨leg.link.place, leg.start, leg.stop⟩

/-- The leg on the track. -/
def segment (leg : Leg) : Segment where
  on := leg.link.on
  departing := leg.link.on.first
  start := leg.start
  stop := leg.stop
  departing_mem := Section.mem_ends.mpr (.inl rfl)
  start_lt_stop := leg.start_lt_stop
  stop_le_length := leg.stop_le_length

theorem ofJson_stretch {track : Track} {leg : Leg} (stored : leg.link.on ∈ track.sections) :
    Segment.ofJson track leg.stretch.toJson = .ok leg.segment :=
  Segment.ofJson_eq_self stored rfl rfl rfl

/-- Rows of legs are read from what the generator writes for them. -/
theorem routesOfJson_stretches {track : Track} {rows : List (List Leg)}
    (stored : ∀ row ∈ rows, ∀ leg ∈ row, leg.link.on ∈ track.sections) :
    routesOfJson track (.ofList (.ofList Stretch.toJson) (rows.map (·.map stretch))) =
      .ok (rows.map (·.map segment)) := by
  rw [routesOfJson_ofList, Outcome.mapM_eq_ok_iff, List.forall₂_map_left_iff,
    List.forall₂_map_right_iff, List.forall₂_same]
  intro row member
  rw [Outcome.mapM_eq_ok_iff, List.forall₂_map_left_iff, List.forall₂_map_right_iff,
    List.forall₂_same]
  exact fun leg on_row => ofJson_stretch (stored row member leg on_row)

end Leg

/-- A place for a train within a link, with some of the link before it and behind it. -/
structure Berth where
  link : Link
  start : Nat
  stop : Nat
  start_pos : 0 < start
  start_lt_stop : start < stop
  stop_lt_length : stop < link.length

namespace Berth

def held (berth : Berth) : Leg :=
  ⟨berth.link, berth.start, berth.stop, berth.start_lt_stop, Nat.le_of_lt berth.stop_lt_length⟩

/-- The rest of the link, from where the train stops. -/
def rest (berth : Berth) : Leg :=
  ⟨berth.link, berth.stop, berth.link.length, berth.stop_lt_length, Nat.le_refl _⟩

/-- The links beyond, as far as a train reaches. -/
def beyond (berth : Berth) (links : List Link) (reach : Int) : List Link :=
  (links.drop (berth.link.place + 1)).take reach.toNat

/-- What the train requests. -/
def request (berth : Berth) (links : List Link) (reach : Int) : List Leg :=
  berth.rest :: (berth.beyond links reach).map Leg.whole

end Berth

/-- The trains of berths. -/
def placed (links : List Link) (reach : Int) (berths : List Berth) : Trains where
  occupied := berths.map fun berth => [berth.held].map Leg.stretch
  requested := berths.map fun berth => (berth.request links reach).map Leg.stretch

section Drawing

variable {links : List Link}

/-- What is drawn on a link is a berth on it, if anything. -/
theorem exists_drawStretch (draws : Draws) (link : Link) :
    ∃ (berth? : Option Berth) (later : Draws),
      drawStretch draws link.place link.length =
        .ok (berth?.map fun berth => berth.held.stretch, later) ∧
      ∀ berth ∈ berth?, berth.link = link := by
  obtain ⟨start, second, start_drawn⟩ :=
    draws.exists_between (Int.le_max_left 1 ((link.length : Int) / 2))
  obtain ⟨step, later, step_drawn⟩ := second.exists_between (show 1 ≤ longestStep by decide)
  have start_bounds := Draws.between_bounds start_drawn
  have step_bounds := Draws.between_bounds step_drawn
  have drawn_eq : drawStretch draws link.place link.length =
      .ok (if min ((link.length : Int) - 1) (start + step) ≤ start then none
        else some ⟨link.place, start, min ((link.length : Int) - 1) (start + step)⟩, later) := by
    unfold drawStretch
    refine Outcome.bind_eq_ok_iff.mpr ⟨_, start_drawn, ?_⟩
    exact Outcome.bind_eq_ok_iff.mpr ⟨_, step_drawn, rfl⟩
  rw [drawn_eq]
  split
  next => exact ⟨none, later, rfl, by simp⟩
  -- A stop behind the start is one before the end of the link.
  next room =>
    obtain ⟨first, rfl⟩ := Int.eq_ofNat_of_zero_le (show 0 ≤ start by omega)
    obtain ⟨last, last_eq⟩ := Int.eq_ofNat_of_zero_le
      (show 0 ≤ min ((link.length : Int) - 1) (first + step) by omega)
    refine ⟨some ⟨link, first, last, by omega, by omega, by omega⟩, later, ?_, by simp⟩
    rw [last_eq]
    rfl

/-- A request is the rest of a link and the stretches beyond it. -/
theorem map_stretch_request (places : links.map Link.place = List.range' 0 links.length)
    (berth : Berth) (reach : Int) :
    (berth.request links reach).map Leg.stretch =
      ⟨berth.link.place, berth.stop, berth.link.length⟩ ::
        reached (links.map fun link => (link.length : Int)) berth.link.place reach := by
  have numbered : (links.map fun link => (link.length : Int)).zipIdx =
      links.map fun link => ((link.length : Int), link.place) := by
    rw [List.zipIdx_eq_zip_range', List.length_map, ← places, List.zip_map']
  rw [reached, numbered, ← List.map_drop, ← List.map_take, List.map_map, Berth.request,
    List.map_cons, List.map_map]
  rfl

theorem placed_cons (places : links.map Link.place = List.range' 0 links.length)
    (berth : Berth) (berths : List Berth) (reach : Int) :
    placed links reach (berth :: berths) =
      ⟨[berth.held.stretch] :: (placed links reach berths).occupied,
        (⟨berth.link.place, berth.stop, berth.link.length⟩ ::
          reached (links.map fun link => (link.length : Int)) berth.link.place reach) ::
            (placed links reach berths).requested⟩ := by
  rw [← map_stretch_request places]
  rfl

theorem getD_length {place : Nat} (inside : place < links.length) :
    (links.map fun link => (link.length : Int)).getD place 0 = links[place].length := by
  simp [List.getD, inside]

theorem place_getElem (places : links.map Link.place = List.range' 0 links.length) {place : Nat}
    (inside : place < links.length) : links[place].place = place := by
  have at_place : (links.map Link.place)[place]? = (List.range' 0 links.length)[place]? := by
    rw [places]
  simpa [inside] using at_place

/-- The trains that are drawn on chosen links are those of berths on some of these, in order. -/
theorem exists_drawTrains (places : links.map Link.place = List.range' 0 links.length)
    (draws : Draws) (reach : Int) {chosen : List Nat}
    (inside : ∀ place ∈ chosen, place < links.length) :
    ∃ berths later,
      drawTrains draws (links.map fun link => (link.length : Int)) (some reach) chosen =
        .ok (placed links reach berths, later) ∧
      (berths.map fun berth => berth.link.place).Sublist chosen ∧
      ∀ berth ∈ berths, berth.link ∈ links := by
  induction chosen generalizing draws with
  | nil => exact ⟨[], draws, rfl, .slnil, by simp⟩
  | cons place chosen ih =>
    obtain ⟨place_inside, others_inside⟩ := List.forall_mem_cons.mp inside
    obtain ⟨berth?, next, stretch_drawn, on_link⟩ := exists_drawStretch draws links[place]
    rw [place_getElem places place_inside, ← getD_length place_inside] at stretch_drawn
    obtain ⟨berths, later, others_drawn, sublist, stored⟩ := ih next others_inside
    cases berth? with
    | none =>
      refine ⟨berths, later, ?_, sublist.cons place, stored⟩
      refine Outcome.bind_eq_ok_iff.mpr ⟨_, stretch_drawn, ?_⟩
      exact Outcome.bind_eq_ok_iff.mpr ⟨_, others_drawn, rfl⟩
    | some berth =>
      have link_eq : berth.link = links[place] := on_link berth rfl
      have place_eq : berth.link.place = place := by
        rw [link_eq, place_getElem places place_inside]
      refine ⟨berth :: berths, later, ?_, ?_, ?_⟩
      · refine Outcome.bind_eq_ok_iff.mpr ⟨_, stretch_drawn, ?_⟩
        refine Outcome.bind_eq_ok_iff.mpr ⟨_, others_drawn, ?_⟩
        refine Outcome.bind_eq_ok_iff.mpr ⟨reach, rfl, ?_⟩
        rw [getD_length place_inside, ← link_eq, ← place_eq, placed_cons places]
        rfl
      · rw [List.map_cons, place_eq]
        exact sublist.cons_cons place
      · exact List.forall_mem_cons.mpr ⟨link_eq ▸ List.getElem_mem place_inside, stored⟩

/-- The trains that are drawn are those of berths on different links, and no more than asked for. -/
theorem exists_trains (places : links.map Link.place = List.range' 0 links.length)
    (draws : Draws) (count : Nat) (reach : Int) :
    ∃ berths later,
      trains draws (some count) (links.map fun link => (link.length : Int)) (some reach) =
        .ok (placed links reach berths, later) ∧
      (∀ berth ∈ berths, berth.link ∈ links) ∧
      (berths.map fun berth => berth.link.place).Nodup ∧ berths.length ≤ count := by
  let wanted := (min (count : Int) (links.map fun link => (link.length : Int)).length).toNat
  let chosen := draws.sample (List.range (links.map fun link => (link.length : Int)).length) wanted
  have inside : ∀ place ∈ chosen.1, place < links.length := fun place member => by
    simpa using (draws.sample_subperm _ _).subset member
  obtain ⟨berths, later, drawn, sublist, stored⟩ :=
    exists_drawTrains places chosen.2 reach inside
  -- A link is chosen once, and short links only leave out some of those that are chosen.
  refine ⟨berths, later, Outcome.bind_eq_ok_iff.mpr ⟨(count : Int), rfl, drawn⟩, stored, ?_, ?_⟩
  · exact (draws.nodup_sample List.nodup_range wanted).sublist sublist
  · calc berths.length = (berths.map fun berth => berth.link.place).length := by
          rw [List.length_map]
      _ ≤ chosen.1.length := sublist.length_le
      _ ≤ wanted := draws.length_sample_le _ _
      _ ≤ count := by omega

end Drawing

end Trackage.Chain
