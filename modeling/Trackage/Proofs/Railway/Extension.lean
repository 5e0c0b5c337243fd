import Trackage.Proofs.Allocation.Priority
import Trackage.Proofs.Railway.Invariant

/-!
Moving trains forward. A train requests a stretch of its route from where it stops, and is granted a
leading part of that. Its new allocation covers what it held and what it was granted, and nothing
else, so that trains which kept clear of each other still do.
-/

namespace Trackage

/-- The train after it was granted some segments. -/
def Train.extended (t : Train) (row : List Segment) : Train :=
  ⟨t.identifier, t.route, t.start, t.stop + lengthOf row⟩

namespace Railway

theorem advance_none (t : Train) : advance t none = [] := by
  have behind : ¬ (t.stop : Int) < min (t.stop : Int) t.route.length := by omega
  simp only [advance, Option.getD_none, if_neg behind]

theorem extended_of_no_target {t : Train} {row : List Segment}
    (leads : LeadingPart row (advance t none)) : t.extended row = t := by
  rw [advance_none] at leads
  cases leads
  rfl

/-- A request is a stretch of the route from where the train stops to a place within the route. -/
theorem advance_eq_pieces {track : Track} {t : Train} (placed : t.Placed track)
    (target : Option Int) :
    ∃ stop, t.stop ≤ stop ∧ stop ≤ t.route.length ∧
      advance t target = Route.pieces t.route.segments t.stop stop := by
  have within := placed.within
  unfold advance
  by_cases ahead : (t.stop : Int) < min (target.getD t.stop) t.route.length
  · refine ⟨(min (target.getD t.stop) t.route.length).toNat, by omega, by omega, ?_⟩
    simp only [if_pos ahead]
  · refine ⟨t.stop, Nat.le_refl _, within, ?_⟩
    simp only [if_neg ahead]
    exact (Route.pieces_eq_nil _ (Nat.le_refl _)).symm

theorem advance_liesOn {track : Track} {t : Train} (placed : t.Placed track)
    (target : Option Int) : LiesOn (advance t target) track := by
  obtain ⟨stop, -, -, request⟩ := advance_eq_pieces placed target
  rw [request]
  exact Route.liesOn_pieces (Route.onTrack_iff.mp placed.route_on) t.stop stop

section Granted

variable {track : Track} {t : Train} {target : Option Int} {row : List Segment}

/-- What a train is granted is the stretch of its route up to where it stops then. -/
theorem granted_eq_pieces (placed : t.Placed track) (leads : LeadingPart row (advance t target)) :
    t.stop + lengthOf row ≤ t.route.length ∧
      row = Route.pieces t.route.segments t.stop (t.stop + lengthOf row) := by
  obtain ⟨stop, ahead, within, request⟩ := advance_eq_pieces placed target
  rw [request] at leads
  have shorter := leads.lengthOf_le
  rw [Route.lengthOf_pieces ahead within] at shorter
  exact ⟨by omega, Route.eq_pieces_of_leading leads⟩

theorem extended_placed (placed : t.Placed track) (leads : LeadingPart row (advance t target)) :
    (t.extended row).Placed track where
  route_on := placed.route_on
  ordered := Nat.lt_of_lt_of_le placed.ordered (Nat.le_add_right _ _)
  within := (granted_eq_pieces placed leads).1

/-- The new allocation covers what the train held and what it was granted, and nothing else. -/
theorem mem_extended_allocation (placed : t.Placed track)
    (leads : LeadingPart row (advance t target)) {l : Location} :
    l ∈ locationsOf (t.extended row).allocation ↔ l ∈ locationsOf (t.allocation ++ row) := by
  have ordered := Nat.le_of_lt placed.ordered
  obtain ⟨-, granted⟩ := granted_eq_pieces placed leads
  have split : l ∈ locationsOf (t.extended row).allocation ↔ l ∈ locationsOf t.allocation ∨
      l ∈ locationsOf (Route.pieces t.route.segments t.stop (t.stop + lengthOf row)) :=
    Route.mem_locationsOf_pieces_iff ordered (Nat.le_add_right _ _)
  rw [split, locationsOf_append, List.mem_append, ← granted]

end Granted

namespace Sound

variable {track : Track} {railway : Railway}

/-- The allocator answers on every railway, and every train moves by what it was granted. -/
theorem extend_served (sound : Sound track railway) (targets : Nat → Option Int) :
    ∃ granted, granted.length = railway.trains.length ∧
      Served (railway.trains.map Train.allocation)
        (railway.trains.map fun t => advance t (targets t.identifier)) granted ∧
      allocate? (railway.trains.map Train.allocation)
        (railway.trains.map fun t => advance t (targets t.identifier)) = some granted ∧
      (railway.extend targets).1.trains = List.zipWith Train.extended railway.trains granted := by
  have occupied_on : ∀ route ∈ railway.trains.map Train.allocation, LiesOn route track := by
    intro route member
    obtain ⟨t, t_in, rfl⟩ := List.mem_map.mp member
    exact (sound.placed t t_in).allocation_on
  have requested_on : ∀ request ∈ railway.trains.map fun t => advance t (targets t.identifier),
      LiesOn request track := by
    intro request member
    obtain ⟨t, t_in, rfl⟩ := List.mem_map.mp member
    exact advance_liesOn (sound.placed t t_in) _
  obtain ⟨granted, answered, served⟩ := allocate?_served occupied_on requested_on (by simp)
  have count : granted.length = railway.trains.length := by
    rw [served.length_eq, List.length_map]
  refine ⟨granted, count, served, answered, ?_⟩
  -- A train without a target is left out of the answer, but it was granted nothing either.
  simp only [extend, answered, Option.getD_some]
  rw [← List.map_uncurry_zip_eq_zipWith]
  refine List.map_congr_left fun pair member => ?_
  obtain ⟨i, found⟩ := List.mem_iff_getElem?.mp member
  obtain ⟨train_at, granted_at⟩ := List.getElem?_zip_eq_some.mp found
  cases target : targets pair.1.identifier with
  | some stop => rfl
  | none =>
    have request_at : (railway.trains.map fun t => advance t (targets t.identifier))[i]? =
        some (advance pair.1 none) := by simp [train_at, target]
    have leads := (served.greatest i _ pair.2 request_at granted_at).leading
    exact (extended_of_no_target leads).symm

/-- Each train after a move was there before, and was granted a leading part of its request. -/
theorem exists_entry {targets : Nat → Option Int} {granted : List (List Segment)}
    (served : Served (railway.trains.map Train.allocation)
      (railway.trains.map fun t => advance t (targets t.identifier)) granted) {i : Nat} {v : Train}
    (found : (List.zipWith Train.extended railway.trains granted)[i]? = some v) :
    ∃ t row, railway.trains[i]? = some t ∧ granted[i]? = some row ∧ v = t.extended row ∧
      LeadingPart row (advance t (targets t.identifier)) := by
  rw [List.getElem?_zipWith_eq_some] at found
  obtain ⟨t, row, train_at, granted_at, rfl⟩ := found
  have request_at : (railway.trains.map fun t => advance t (targets t.identifier))[i]? =
      some (advance t (targets t.identifier)) := by simp [train_at]
  exact ⟨t, row, train_at, granted_at, rfl,
    (served.greatest i _ row request_at granted_at).leading⟩

theorem map_identifier_extended {trains : List Train} {granted : List (List Segment)}
    (count : granted.length = trains.length) :
    (List.zipWith Train.extended trains granted).map Train.identifier =
      trains.map Train.identifier := by
  calc (List.zipWith Train.extended trains granted).map Train.identifier
      = ((trains.zip granted).map Prod.fst).map Train.identifier := by
        rw [← List.map_uncurry_zip_eq_zipWith, List.map_map, List.map_map]
        rfl
    _ = trains.map Train.identifier := by rw [List.map_fst_zip (Nat.le_of_eq count.symm)]

/-- Trains that move forward by what they are granted keep clear of each other. -/
theorem extend (sound : Sound track railway) (targets : Nat → Option Int) :
    Sound track (railway.extend targets).1 := by
  obtain ⟨granted, count, served, -, moved⟩ := sound.extend_served targets
  refine ⟨sound.track_eq, ?_, ?_, ?_⟩ <;> rw [moved]
  -- No train is added or lost, and none changes its identifier.
  · rw [map_identifier_extended count, sound.identifiers, List.length_zipWith, count, Nat.min_self]
  · intro v member
    obtain ⟨i, found⟩ := List.mem_iff_getElem?.mp member
    obtain ⟨t, row, train_at, -, rfl, leads⟩ := exists_entry served found
    exact extended_placed (sound.placed t (List.mem_of_getElem? train_at)) leads
  · intro v v_in w w_in other
    obtain ⟨i, v_at⟩ := List.mem_iff_getElem?.mp v_in
    obtain ⟨j, w_at⟩ := List.mem_iff_getElem?.mp w_in
    obtain ⟨t, row, t_at, row_at, rfl, t_leads⟩ := exists_entry served v_at
    obtain ⟨u, granted_row, u_at, granted_at, rfl, u_leads⟩ := exists_entry served w_at
    have t_in := List.mem_of_getElem? t_at
    have u_in := List.mem_of_getElem? u_at
    have distinct : i ≠ j := by
      rw [← sound.identifier_eq t_at, ← sound.identifier_eq u_at]
      exact other
    have held_at : (railway.trains.map Train.allocation)[i]? = some t.allocation := by simp [t_at]
    have other_at : (railway.trains.map Train.allocation)[j]? = some u.allocation := by simp [u_at]
    -- Each new allocation is what the train held with its grant.
    have clear := served.footprints_clear held_at other_at row_at granted_at distinct
      (sound.apart t t_in u u_in other)
    intro l l_in m m_in
    rw [mem_extended_allocation (sound.placed t t_in) t_leads] at l_in
    rw [mem_extended_allocation (sound.placed u u_in) u_leads] at m_in
    exact clear l l_in m m_in

end Sound

end Railway

end Trackage
