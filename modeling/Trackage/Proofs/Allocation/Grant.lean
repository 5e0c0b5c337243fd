import Trackage.Allocation.Basic
import Trackage.Proofs.Segment.Leading

/-!
What one train is granted. The grant is the greatest leading part of the request that is clear of
the forbidden locations, and that determines it.
-/

namespace Trackage

namespace Segment

/-- A segment that meets a forbidden location stops before the first one it comes to. -/
theorem longestFree_of_meets {s : Segment} {forbidden : LocationSet}
    (meets : ¬ forbidden.isDisjoint s.locations = true) :
    ∃ first ≤ s.length, forbidden.contains (s.locationAfter first) = true ∧
      (∀ distance < first, ¬ forbidden.contains (s.locationAfter distance) = true) ∧
      s.longestFree forbidden = s.leading? (first - 1) := by
  rw [LocationSet.isDisjoint_iff] at meets
  unfold longestFree
  cases found : s.locations.findIdx? forbidden.contains with
  | none =>
    have free := List.findIdx?_eq_none_iff.mp found
    exact absurd (fun l on_s => by simp [free l on_s]) meets
  | some first =>
    rw [locations_eq_map, List.findIdx?_map, List.findIdx?_eq_some_iff_getElem] at found
    obtain ⟨inside, held, before⟩ := found
    simp only [List.length_range, List.getElem_range, Function.comp_apply, Bool.not_eq_true]
      at inside held before
    exact ⟨first, Nat.lt_succ_iff.mp inside, held, fun distance nearer => by
      simp [before distance nearer], rfl⟩

end Segment

/-- A leading part of a request that is clear of what is barred, and of which every other such part
is a leading part. -/
structure GreatestClear (barred : Location → Prop) (request row : List Segment) : Prop where
  leading : LeadingPart row request
  clear : ∀ l ∈ locationsOf row, ¬ barred l
  greatest : ∀ part, LeadingPart part request → (∀ l ∈ locationsOf part, ¬ barred l) →
    LeadingPart part row

namespace GreatestClear

variable {barred : Location → Prop} {request row : List Segment}

theorem congr {other : Location → Prop} (great : GreatestClear barred request row)
    (agree : ∀ l ∈ locationsOf request, (barred l ↔ other l)) :
    GreatestClear other request row where
  leading := great.leading
  clear l member barred := great.clear l member
    ((agree l (great.leading.locations_subset l member)).mpr barred)
  greatest part leads clear := great.greatest part leads fun l member barred =>
    clear l member ((agree l (leads.locations_subset l member)).mp barred)

theorem unique {other : List Segment} (great : GreatestClear barred request row)
    (also : GreatestClear barred request other) : row = other :=
  (also.greatest row great.leading great.clear).antisymm
    (great.greatest other also.leading also.clear)

end GreatestClear

theorem Segment.longestFree_greatestClear {s : Segment} {forbidden : LocationSet}
    (meets : ¬ forbidden.isDisjoint s.locations = true) (rest : List Segment) :
    GreatestClear (fun l => forbidden.contains l = true) (s :: rest)
      (s.longestFree forbidden).toList := by
  obtain ⟨first, within, held, before, stopped⟩ := longestFree_of_meets meets
  have positive := s.length_pos
  rw [stopped]
  refine ⟨leading?_leadingPart (by omega) rest, ?_, ?_⟩
  -- What is left ends one before the first forbidden location. Where that location is the start,
  -- nothing is left.
  · intro l member
    obtain ⟨distance, nearer, rfl⟩ := mem_locations_leading? member
    by_cases at_start : first = 0
    · subst at_start
      simp [leading?] at member
    · exact before distance (by omega)
  · intro part leads clear
    cases leads with
    | none => exact .none _
    | @cut _ t _ sections ends starts stops =>
      -- The part covers all locations up to its stop, so that it stops before the forbidden one.
      have short : t.length < first := by
        obtain ⟨fits, cut⟩ := eq_piece_of_cut sections ends starts stops
        by_cases reaches : first ≤ t.length
        · have reached : s.locationAfter first ∈ locationsOf [t] := by
            rw [locationsOf_singleton, mem_locations]
            exact ⟨first, reaches, by rw [cut, locationAfter_piece, Nat.zero_add]⟩
          exact absurd held (clear _ reached)
        · exact Nat.lt_of_not_le reaches
      exact cut_leads_leading? sections ends starts stops (Nat.le_sub_one_of_lt short) (by omega)
    -- A part with the whole segment has the forbidden location in it.
    | @whole _ part _ later =>
      have covered : s.locationAfter first ∈ locationsOf (s :: part) := by
        rw [locationsOf_cons]
        exact List.mem_append_left _ (mem_locations.mpr ⟨first, within, rfl⟩)
      exact absurd held (clear _ covered)

/-- The grant is the greatest leading part that is clear of the forbidden locations. -/
theorem grant_greatestClear (forbidden : LocationSet) (request : List Segment) :
    GreatestClear (fun l => forbidden.contains l = true) request (grant forbidden request) := by
  -- The grant recurses on the request until a segment meets a forbidden location.
  induction request with
  | nil => exact ⟨.none [], fun l absent => (by cases absent), fun part leads _ => leads⟩
  | cons s rest ih =>
    unfold grant
    by_cases free : forbidden.isDisjoint s.locations = true
    · rw [if_pos free]
      rw [LocationSet.isDisjoint_iff] at free
      refine ⟨.whole s ih.leading, ?_, ?_⟩
      · intro l member
        rw [locationsOf_cons, List.mem_append] at member
        exact member.elim (free l) (ih.clear l)
      · intro part leads clear
        cases leads with
        | none => exact .none _
        | cut rest sections ends starts stops => exact .cut _ sections ends starts stops
        | whole s later =>
          have rest_clear := fun l member => clear l (List.mem_append_right s.locations member)
          exact .whole s (ih.greatest _ later rest_clear)
    · rw [if_neg free]
      exact Segment.longestFree_greatestClear free rest

end Trackage
