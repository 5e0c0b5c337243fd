import Trackage.Proofs.Allocation.Grant
import Trackage.Proofs.Route.Pieces
import Trackage.Proofs.Segment.Reversal

/-!
Grants under other circumstances. With more forbidden points a train is granted no more, and with a
shorter request it is granted the shorter of that request and of what it would be granted otherwise.
-/

namespace Trackage

namespace LeadingPart

variable {part other row : List Segment}

/-- The leading parts of one row are ordered by their lengths. -/
theorem of_lengthOf_le (leading : LeadingPart part row) (also : LeadingPart other row)
    (shorter : lengthOf part ≤ lengthOf other) : LeadingPart part other := by
  rw [Route.eq_pieces_of_leading_all leading, Route.eq_pieces_of_leading_all also]
  exact Route.leadingPart_pieces row shorter

theorem trans (first : LeadingPart part other) (second : LeadingPart other row) :
    LeadingPart part row := by
  have within := Nat.le_trans first.lengthOf_le second.lengthOf_le
  rw [Route.eq_pieces_of_leading_all second] at first
  rw [Route.eq_pieces_of_leading first, Nat.zero_add]
  exact Route.leadingPart_pieces_all row within

end LeadingPart

/-- The row of lesser length, the first of two that are equally long. -/
def shorterRow (row other : List Segment) : List Segment :=
  if lengthOf row ≤ lengthOf other then row else other

/-- Every point of a set of locations is a point of another set. -/
def LocationSet.CoveredBy (set wider : LocationSet) (track : Track) : Prop :=
  ∀ l ∈ set.members, ∃ m ∈ wider.members, track.point m = track.point l

section Forbidden

variable {track : Track} {forbidden wider : LocationSet} {request part : List Segment}

theorem LocationSet.CoveredBy.contains (covered : forbidden.CoveredBy wider track)
    (forbidden_on : forbidden.On track) (wider_on : wider.On track) {l : Location}
    (l_on : l.On track) (held : forbidden.contains l = true) : wider.contains l = true := by
  rw [contains_iff_equivalent forbidden_on l_on] at held
  obtain ⟨member, present, same⟩ := held
  obtain ⟨m, m_in, point_eq⟩ := covered member present
  refine (contains_iff_equivalent wider_on l_on).mpr ⟨m, m_in, ?_⟩
  have member_on := forbidden_on member present
  have met := (Location.equivalent_iff_point_eq (wider_on m m_in) member_on).mpr point_eq
  exact met.trans (wider_on m m_in) member_on l_on same

/-- A grant that keeps clear of the wider set keeps clear of the other as well. -/
theorem grant_antitone (request_on : LiesOn request track) (forbidden_on : forbidden.On track)
    (wider_on : wider.On track) (covered : forbidden.CoveredBy wider track) :
    LeadingPart (grant wider request) (grant forbidden request) := by
  have great := grant_greatestClear forbidden request
  have narrow := grant_greatestClear wider request
  apply great.greatest _ narrow.leading
  intro l member held
  have l_on := (narrow.leading.liesOn request_on).locations_on l member
  exact narrow.clear l member (covered.contains forbidden_on wider_on l_on held)

/-- What is granted of a leading part is that part, or all that is granted of the whole request. -/
theorem grant_of_leading (leading : LeadingPart part request) :
    grant forbidden part = shorterRow part (grant forbidden request) := by
  have great := grant_greatestClear forbidden request
  apply (grant_greatestClear forbidden part).unique
  -- Both rows lead the request, so that the shorter one leads the other.
  simp only [shorterRow]
  split
  next shorter =>
    have leads := leading.of_lengthOf_le great.leading shorter
    exact ⟨.refl part, fun l member => great.clear l (leads.locations_subset l member),
      fun other leads_part _ => leads_part⟩
  next longer =>
    have leads := great.leading.of_lengthOf_le leading (Nat.le_of_not_le longer)
    exact ⟨leads, great.clear, fun other leads_part clear =>
      great.greatest other (leads_part.trans leading) clear⟩

end Forbidden

section Written

variable {track : Track} {forbidden : LocationSet}

theorem LocationSet.contains_congr (forbidden_on : forbidden.On track) {l m : Location}
    (l_on : l.On track) (m_on : m.On track) (same : l.Equivalent m) :
    forbidden.contains l = forbidden.contains m := by
  rw [Bool.eq_iff_iff, contains_iff_equivalent forbidden_on l_on,
    contains_iff_equivalent forbidden_on m_on]
  refine exists_congr fun member => and_congr_right fun present => ?_
  have member_on := forbidden_on member present
  exact ⟨fun met => met.trans member_on l_on m_on same,
    fun met => met.trans member_on m_on l_on same.symm⟩

/-- The forbidden locations of a segment come at the same distances however its section is
written. -/
theorem Segment.Same.map_contains {s t : Segment} (same : s.Same t)
    (forbidden_on : forbidden.On track) (t_on : t.onTrack track = true) :
    s.locations.map forbidden.contains = t.locations.map forbidden.contains := by
  have s_on : s.onTrack track = true := track.contains_of_same same.1.symm t_on
  rw [s.locations_eq_map, t.locations_eq_map, List.map_map, List.map_map, same.length_eq]
  apply List.map_congr_left
  intro distance _
  exact LocationSet.contains_congr forbidden_on (on_locationAfter s_on distance)
    (on_locationAfter t_on distance) (same.locationAfter_equivalent distance)

theorem Segment.Same.longestFree {s t : Segment} (same : s.Same t)
    (forbidden_on : forbidden.On track) (t_on : t.onTrack track = true) :
    List.Forall₂ Segment.Same (s.longestFree forbidden).toList
      (t.longestFree forbidden).toList := by
  -- Both come to their first forbidden location at one index, and are cut there.
  have met : s.locations.findIdx? forbidden.contains = t.locations.findIdx? forbidden.contains := by
    have indices := congrArg (List.findIdx? id) (same.map_contains forbidden_on t_on)
    simpa only [List.findIdx?_map, Function.id_comp] using indices
  simp only [Segment.longestFree, met]
  split
  next => exact .cons same .nil
  next index =>
    simp only [leading?, same.length_eq]
    split
    next fits =>
      obtain ⟨sections, departing, starts, -⟩ := same
      refine .cons ⟨sections, departing, ?_, ?_⟩ .nil
      · simp only [piece, starts]
      · simp only [piece, starts]
    next => exact .nil

/-- How the sections of a request are written makes no difference to what is granted. -/
theorem grant_same {row other : List Segment} (forbidden_on : forbidden.On track)
    (other_on : LiesOn other track) (same : List.Forall₂ Segment.Same row other) :
    List.Forall₂ Segment.Same (grant forbidden row) (grant forbidden other) := by
  induction same with
  | nil => exact .nil
  | @cons s t row other first _ ih =>
    have t_on := other_on t List.mem_cons_self
    have free : forbidden.isDisjoint s.locations = forbidden.isDisjoint t.locations := by
      have held := congrArg (List.any · id) (first.map_contains forbidden_on t_on)
      simp only [List.any_map, Function.id_comp] at held
      simp only [LocationSet.isDisjoint, held]
    simp only [grant, free]
    split
    · exact .cons first (ih other_on.tail)
    · exact first.longestFree forbidden_on t_on

end Written

/-- A train is granted as much of its request as is clear, and no more where more points are
forbidden. Of a leading part of its request, however the sections of that part are written, it is
granted the shorter of the part and of what it is granted of the request: a longer request costs
nothing, and a shorter one gains nothing. -/
theorem grant_monotone {track : Track} {request : List Segment} (request_on : LiesOn request track)
    {forbidden : LocationSet} (forbidden_on : forbidden.On track) :
    GreatestClear (fun l => forbidden.contains l = true) request (grant forbidden request) ∧
    (∀ wider : LocationSet, wider.On track → forbidden.CoveredBy wider track →
      LeadingPart (grant wider request) (grant forbidden request)) ∧
    (∀ part, LeadingPart part request →
      grant forbidden part = shorterRow part (grant forbidden request) ∧
        LeadingPart (grant forbidden part) (grant forbidden request)) ∧
    ∀ row part, LeadingPart part request → sameSegments row part = true →
      sameSegments (grant forbidden row) (shorterRow row (grant forbidden request)) = true := by
  have great := grant_greatestClear forbidden request
  refine ⟨great, ?_, ?_, ?_⟩
  · intro wider wider_on covered
    exact grant_antitone request_on forbidden_on wider_on covered
  · intro part leads
    have short := grant_greatestClear forbidden part
    exact ⟨grant_of_leading leads, great.greatest _ (short.leading.trans leads) short.clear⟩
  · intro row part leads same
    rw [sameSegments_iff] at same
    have granted := grant_same forbidden_on (leads.liesOn request_on) same
    have lengths := lengthOf_eq_of_same same
    rw [grant_of_leading leads] at granted
    simp only [shorterRow, ← lengths] at granted ⊢
    split
    next shorter =>
      -- All of the row is granted, as its length is.
      rw [if_pos shorter] at granted
      have whole : grant forbidden row = row :=
        (grant_greatestClear forbidden row).leading.eq_of_lengthOf_eq
          ((lengthOf_eq_of_same granted).trans lengths.symm)
      rw [whole]
      exact sameSegments_refl row
    next longer =>
      rw [if_neg longer] at granted
      exact sameSegments_iff.mpr granted

/-- The request is cut before a forbidden point, and before another one when that is forbidden too.
A shorter request, its section written the other way, is granted as far as that goes. -/
theorem grant_monotone_ahead :
    let request : List Segment := [.ahead 0 3, .ahead 3 10]
    let part : List Segment := [.ahead 0 3, .ahead 3 6]
    let row : List Segment := [(Segment.back 7 10).reversed, (Segment.back 4 7).reversed]
    let forbidden : LocationSet := .ofList [(Segment.ahead 0 10).locationAfter 8]
    let wider : LocationSet := forbidden.push ((Segment.ahead 0 10).locationAfter 5)
    LiesOn request (.single .line) ∧ forbidden.On (.single .line) ∧ wider.On (.single .line) ∧
      forbidden.CoveredBy wider (.single .line) ∧ LeadingPart part request ∧
      sameSegments row part = true ∧
      LeadingPart (grant wider request) (grant forbidden request) ∧
      grant forbidden part = shorterRow part (grant forbidden request) ∧
      sameSegments (grant forbidden row) (shorterRow row (grant forbidden request)) = true := by
  intro request part row forbidden wider
  have request_on : LiesOn request (.single .line) := by simp [request, LiesOn]
  have point_on (distance : Nat) :
      ((Segment.ahead 0 10).locationAfter distance).On (.single .line) :=
    Segment.on_locationAfter (Segment.onTrack_ahead (by decide) (by decide)) distance
  have forbidden_on : forbidden.On (.single .line) := by
    apply LocationSet.On.ofList
    intro l member
    obtain rfl := List.mem_singleton.mp member
    exact point_on 8
  have wider_on : wider.On (.single .line) := by
    intro l member
    rcases List.mem_cons.mp member with rfl | old
    · exact point_on 5
    · exact forbidden_on l old
  have covered : forbidden.CoveredBy wider (.single .line) :=
    fun l member => ⟨l, List.mem_cons_of_mem _ member, rfl⟩
  have leads : LeadingPart part request := .whole _ (.cut [] rfl rfl rfl (by decide))
  have same : sameSegments row part = true := by decide
  obtain ⟨-, monotone, shorter, rewritten⟩ := grant_monotone request_on forbidden_on
  exact ⟨request_on, forbidden_on, wider_on, covered, leads, same,
    monotone wider wider_on covered, (shorter part leads).1, rewritten row part leads same⟩

end Trackage
