import Trackage.Proofs.Console.Schematic
import Trackage.Proofs.Service.Forecast

/-!
Schematics of what the service shows. In every state that is reached, a stored track and the listing of
its trains are drawn, and the drawing shows exactly what the trains hold.
-/

namespace Trackage.Service

variable {service : Service} {id : Int} {track : Track}

/-- A stored track is shown with its sections. -/
theorem exists_showTrack (stored : service.storedTrack? id = .ok (some track)) :
    ∃ shown : Json, service.handle (.showTrack id) =
        .ok (service, .data (.object [("track", shown)])) ∧
      shown.member? "sections" = .ok (some (.ofList sectionJson track.sections)) := by
  obtain ⟨row, row_stored, read⟩ := storedTrack?_eq_some stored
  have key : Cell.ofInt id = .ok (.integer id) :=
    Cell.ofInt_of_fits (fits_of_storedTrack? stored)
  let fields : List (String × Json) :=
    [("id", .int id), ("name", .string row.name), ("definition", .string row.definition)]
  have shown : service.showTrack id =
      .ok (.object [("track", .object (fields ++ trackFields track))]) := by
    refine Outcome.bind_eq_ok_iff.mpr ⟨_, key, ?_⟩
    rw [Store.getTrack, Store.rowAt?_integer, row_stored]
    exact Outcome.bind_eq_ok_iff.mpr ⟨track, Outcome.mapError_eq_ok_iff.mpr read, rfl⟩
  refine ⟨.object (fields ++ trackFields track), ?_, rfl⟩
  change (look _).outcome service = _
  rw [look_outcome, shown]
  rfl

/-- In every state that is reached, and for every track that is stored, the track and the listing of its
trains are drawn when the length that the trains hold can be written. The drawing has a row for each
section and a line for each segment that a train holds, on the row of the segment's section and over
exactly its points, which are those of the segment that is travelled the other way as well. In its
title stands the length that the trains hold, and the lines of two trains do not meet. -/
theorem reached_schematic (requests : List Request)
    (stored : (start.run requests).storedTrack? id = .ok (some track)) :
    (∃ shown next railway,
      (start.run requests).handle (.showTrack id) =
          .ok (start.run requests, .data (.object [("track", shown)])) ∧
        (start.run requests).handle (.listTrains id) =
          .ok (next, .data (.object [("items", .array (railway.trains.map trainJson))])) ∧
        Railway.Sound track railway ∧
        (Text.isWritable (heldLength railway.trains) = true →
          ∃ drawn, Schematic.draw shown (.array (railway.trains.map trainJson)) = .ok drawn ∧
            drawn.Shows track railway.trains)) ∧
      ∀ s : Segment, ∃ on, Schematic.ShownSection.ofJson (sectionJson s.on) = .ok on ∧
        on.span s.reversed.toJson = on.span s.toJson := by
  have coherent := coherent_start.run requests
  have routed := routed_start.run requests
  obtain ⟨row, -, read⟩ := storedTrack?_eq_some stored
  have writable := Track.writable_of_ofText read
  obtain ⟨shown, track_shown, sections⟩ := exists_showTrack stored
  obtain ⟨next, railway, found, sound, on_sections⟩ := coherent.exists_railway? routed stored
  constructor
  · refine ⟨shown, next, railway, track_shown, handle_listTrains_found found, sound, ?_⟩
    exact Schematic.exists_draw sections (Track.nodup_texts writable)
      (fun t t_in => (on_sections t t_in).pieces _ _) sound.placed sound.pairwise_clearOf
  · intro s
    obtain ⟨starts, stops⟩ := s.span_reversed
    have reversed := Schematic.span_toJson s.reversed
    change (Schematic.shownSection s.on).span s.reversed.toJson =
      .ok (.natural (s.reversed.startFrom s.on.first), .natural (s.reversed.stopFrom s.on.first))
      at reversed
    refine ⟨_, Schematic.ofJson_sectionJson s.on, ?_⟩
    rw [reversed, Schematic.span_toJson, starts, stops]

theorem heldLength_congr {trains others : List Train}
    (same : trains.map trainJson = others.map trainJson) :
    heldLength trains = heldLength others := by
  have length_eq : ∀ {t u : Train}, trainJson t = trainJson u →
      t.stop - t.start = u.stop - u.start := by
    intro t u alike
    have starts : t.start = u.start := Schematic.natural_injective
      (Option.some.inj (congrArg (·.get? "start_offset") alike))
    have stops : t.stop = u.stop := Schematic.natural_injective
      (Option.some.inj (congrArg (·.get? "end_offset") alike))
    rw [starts, stops]
  induction trains generalizing others with
  | nil => rw [List.map_eq_nil_iff.mp same.symm]
  | cons t trains ih =>
    obtain ⟨u, rest, rfl, head, tail⟩ := List.map_eq_cons_iff.mp same.symm
    rw [heldLength, heldLength, List.map_cons, List.map_cons, List.sum_cons, List.sum_cons,
      length_eq head.symm]
    exact congrArg _ (ih tail.symm)

/-- Two trains that hold the two ends of the demonstration's section are drawn on one row. -/
theorem reached_schematic_headOn :
    let reached := start.run headOnRequests
    ∃ track, reached.storedTrack? 1 = .ok (some track) ∧ ∃ shown drawn trains,
      reached.handle (.showTrack 1) = .ok (reached, .data (.object [("track", shown)])) ∧
      trains.map trainJson = [trainJson aheadTrain, trainJson homeTrain] ∧
      Schematic.draw shown (.array (trains.map trainJson)) = .ok drawn ∧
      drawn.Shows track trains ∧
      drawn.title = "Track Schematic – 2 trains, 6 m allocated" := by
  intro reached
  obtain ⟨_, kept⟩ := exists_headOn
  have coherent : Coherent reached := coherent_start.run _
  obtain ⟨track, stored, -⟩ := coherent.storedTrack?_of_kept (routed_start.run _) kept
  obtain ⟨⟨shown, next, railway, track_shown, listed, -, drawable⟩, -⟩ := reached_schematic _ stored
  have also_listed := handle_listTrains_found (coherent.railway?_of_kept kept)
  -- Of the listing it is known that it shows the two trains.
  have items : railway.trains.map trainJson = [aheadTrain, homeTrain].map trainJson := by
    simpa using (Prod.mk.inj (Except.ok.inj (listed.symm.trans also_listed))).2
  have count : railway.trains.length = 2 := by simpa using congrArg List.length items
  have length_eq : heldLength railway.trains = 6 := heldLength_congr items
  obtain ⟨drawn, drawn_eq, shows⟩ := drawable (by rw [length_eq]; decide +kernel)
  refine ⟨track, stored, shown, drawn, railway.trains, track_shown, items, drawn_eq, shows, ?_⟩
  rw [shows.title, length_eq, count]
  decide +kernel

end Trackage.Service
