import Trackage.Route
import Trackage.Proofs.Segment.Leading

/-!
Stretches of rows of segments. The pieces between two distances have the length between them, cover
what the stretches they divide into cover, and are continuous where the row is. A leading part of a
stretch is a stretch from the same distance.
-/

namespace Trackage

namespace Route

theorem pieces_eq_nil (row : List Segment) {start stop : Nat} (backward : stop ≤ start) :
    pieces row start stop = [] := by
  induction row generalizing start stop with
  | nil => rfl
  | cons s rest ih =>
    have empty : ¬ start < min stop s.length := by omega
    simp only [pieces, dif_neg empty]
    exact ih (Nat.sub_le_sub_right backward s.length)

/-- A stretch that begins within the first segment begins with a piece of it. -/
theorem pieces_cons_of_lt {s : Segment} (rest : List Segment) {start stop : Nat}
    (ordered : start < min stop s.length) :
    pieces (s :: rest) start stop =
      s.piece start (min stop s.length) ordered (Nat.min_le_right _ _) ::
        pieces rest 0 (stop - s.length) := by
  have before : start - s.length = 0 := by omega
  simp only [pieces, dif_pos ordered, before]

theorem pieces_cons_of_le {s : Segment} (rest : List Segment) {start stop : Nat}
    (beyond : min stop s.length ≤ start) :
    pieces (s :: rest) start stop = pieces rest (start - s.length) (stop - s.length) := by
  simp only [pieces, dif_neg (Nat.not_lt.mpr beyond)]

theorem lengthOf_pieces {row : List Segment} {start stop : Nat} (ordered : start ≤ stop)
    (within : stop ≤ lengthOf row) : lengthOf (pieces row start stop) = stop - start := by
  induction row generalizing start stop with
  | nil =>
    simp only [lengthOf] at within
    simp only [pieces, lengthOf]
    omega
  -- The first segment gives its piece, and the others give what is left of the length.
  | cons s rest ih =>
    simp only [lengthOf] at within
    by_cases first : start < min stop s.length
    · rw [pieces_cons_of_lt rest first]
      simp only [lengthOf, Segment.length_piece]
      rw [ih (Nat.zero_le _) (by omega)]
      omega
    · rw [pieces_cons_of_le rest (Nat.not_lt.mp first), ih (by omega) (by omega)]
      omega

theorem pieces_all (row : List Segment) : pieces row 0 (lengthOf row) = row := by
  induction row with
  | nil => rfl
  | cons s rest ih =>
    have positive := s.length_pos
    have all : min (lengthOf (s :: rest)) s.length = s.length := by
      simp only [lengthOf]
      omega
    have behind : lengthOf (s :: rest) - s.length = lengthOf rest := by
      simp only [lengthOf]
      omega
    rw [pieces_cons_of_lt rest (by omega), behind, ih]
    congr 1
    refine Segment.ext rfl rfl (Nat.add_zero _) ?_
    change s.start + min (lengthOf (s :: rest)) s.length = s.stop
    rw [all]
    exact Nat.add_sub_of_le (Nat.le_of_lt s.start_lt_stop)

theorem liesOn_pieces {row : List Segment} {track : Track} (row_on : LiesOn row track)
    (start stop : Nat) : LiesOn (pieces row start stop) track := by
  induction row generalizing start stop with
  | nil => exact row_on
  | cons s rest ih =>
    by_cases first : start < min stop s.length
    · rw [pieces_cons_of_lt rest first]
      intro t member
      rcases List.mem_cons.mp member with rfl | later
      · exact row_on s List.mem_cons_self
      · exact ih row_on.tail _ _ t later
    · rw [pieces_cons_of_le rest (Nat.not_lt.mp first)]
      exact ih row_on.tail _ _

/-- A segment cut from the first segment of a row is a stretch of that row. -/
theorem singleton_eq_pieces {s t : Segment} (rest : List Segment) {start : Nat}
    (sections : t.on = s.on) (ends : t.departing = s.departing)
    (starts : t.start = s.start + start) (within : start + t.length ≤ s.length) :
    [t] = pieces (s :: rest) start (start + t.length) := by
  have positive := t.length_pos
  have inside : start < min (start + t.length) s.length := by omega
  have behind : start + t.length - s.length = 0 := by omega
  rw [pieces_cons_of_lt rest inside, behind, pieces_eq_nil rest (Nat.le_refl 0)]
  congr 1
  refine Segment.ext sections ends starts ?_
  have stop_eq : t.stop = t.start + t.length :=
    (Nat.add_sub_of_le (Nat.le_of_lt t.start_lt_stop)).symm
  simp only [Segment.piece, stop_eq, starts]
  omega

/-- A piece of the first segment and a stretch of the others are one stretch when nothing is left
out between them. -/
theorem cons_eq_pieces {s : Segment} {rest : List Segment} {start stop further : Nat}
    (first : start < min stop s.length) (joined : further = 0 ∨ s.length ≤ stop) :
    s.piece start (min stop s.length) first (Nat.min_le_right _ _) :: pieces rest 0 further =
      pieces (s :: rest) start (start + (min stop s.length - start + further)) := by
  have stop_eq : min (start + (min stop s.length - start + further)) s.length =
      min stop s.length := by omega
  have behind : start + (min stop s.length - start + further) - s.length = further := by omega
  rw [pieces_cons_of_lt rest (by omega), behind]
  congr 1
  refine Segment.ext rfl rfl rfl ?_
  simp only [Segment.piece, stop_eq]

/-- What leads a stretch of a row is the stretch of its own length. -/
theorem eq_pieces_of_leading {row part : List Segment} {start stop : Nat}
    (leading : LeadingPart part (pieces row start stop)) :
    part = pieces row start (start + lengthOf part) := by
  induction row generalizing part start stop with
  | nil =>
    cases leading
    rfl
  | cons s rest ih =>
    by_cases first : start < min stop s.length
    · rw [pieces_cons_of_lt rest first] at leading
      cases leading with
      | none => exact (pieces_eq_nil _ (Nat.le_refl _)).symm
      | @cut _ t _ sections ends starts stops =>
        have ordered := t.start_lt_stop
        have within : start + t.length ≤ s.length := by
          simp only [Segment.piece] at starts stops
          have length_eq : t.length = t.stop - t.start := rfl
          omega
        exact singleton_eq_pieces rest sections ends starts within
      | @whole _ later _ leads =>
        -- Anything behind the first segment is there only when all of the first segment is.
        have joined : lengthOf later = 0 ∨ s.length ≤ stop := by
          by_cases short : stop ≤ s.length
          · have below := leads.lengthOf_le
            rw [pieces_eq_nil rest (by omega)] at below
            exact .inl (Nat.le_zero.mp below)
          · exact .inr (by omega)
        have later_eq := ih leads
        rw [Nat.zero_add] at later_eq
        simp only [lengthOf, Segment.length_piece]
        rw [← cons_eq_pieces first joined, ← later_eq]
    -- A stretch that begins behind the first segment is one of the others.
    · have beyond := Nat.not_lt.mp first
      rw [pieces_cons_of_le rest beyond] at leading
      by_cases later : s.length ≤ start
      · have from_rest : start + lengthOf part - s.length = start - s.length + lengthOf part := by
          omega
        rw [pieces_cons_of_le rest (by omega), from_rest]
        exact ih leading
      · rw [pieces_eq_nil rest (by omega)] at leading
        cases leading
        exact (pieces_eq_nil _ (Nat.le_refl _)).symm

/-- A stretch leads every longer stretch from the same distance. -/
theorem leadingPart_pieces (row : List Segment) {start middle stop : Nat}
    (within : middle ≤ stop) : LeadingPart (pieces row start middle) (pieces row start stop) := by
  induction row generalizing start middle stop with
  | nil => exact .none []
  | cons s rest ih =>
    rcases Nat.eq_or_lt_of_le within with rfl | shorter
    · exact .refl _
    by_cases first : start < min stop s.length
    · rw [pieces_cons_of_lt rest first]
      by_cases inside : start < min middle s.length
      · rw [pieces_cons_of_lt rest inside]
        by_cases all : s.length ≤ middle
        -- Both stretches have all that is left of the segment, and differ behind it.
        · have equal : min middle s.length = min stop s.length := by omega
          simp only [equal]
          exact .whole _ (ih (by omega))
        · rw [pieces_eq_nil rest (by omega)]
          refine .cut _ rfl rfl rfl ?_
          simp only [Segment.piece]
          omega
      · rw [pieces_eq_nil _ (by omega)]
        exact .none _
    · rw [pieces_cons_of_le rest (by omega), pieces_cons_of_le rest (Nat.not_lt.mp first)]
      exact ih (by omega)

theorem leadingPart_pieces_all (row : List Segment) {stop : Nat} (within : stop ≤ lengthOf row) :
    LeadingPart (pieces row 0 stop) row := by
  have leads : LeadingPart (pieces row 0 stop) (pieces row 0 (lengthOf row)) :=
    leadingPart_pieces row within
  rwa [pieces_all] at leads

theorem eq_pieces_of_leading_all {row part : List Segment} (leading : LeadingPart part row) :
    part = pieces row 0 (lengthOf part) := by
  rw [← pieces_all row] at leading
  simpa only [pieces_all, Nat.zero_add] using eq_pieces_of_leading leading

theorem mem_locationsOf_pieces_cons {s : Segment} {rest : List Segment} {start stop : Nat}
    {l : Location} :
    l ∈ locationsOf (pieces (s :: rest) start stop) ↔
      (start < min stop s.length ∧ ∃ distance,
        start ≤ distance ∧ distance ≤ min stop s.length ∧ s.locationAfter distance = l) ∨
      l ∈ locationsOf (pieces rest (start - s.length) (stop - s.length)) := by
  by_cases first : start < min stop s.length
  · have before : start - s.length = 0 := by omega
    rw [pieces_cons_of_lt rest first, locationsOf_cons, List.mem_append, Segment.mem_locations,
      before, Segment.length_piece]
    refine or_congr_left ?_
    constructor
    · rintro ⟨distance, within, rfl⟩
      refine ⟨first, start + distance, by omega, by omega, ?_⟩
      rw [Segment.locationAfter_piece]
    · rintro ⟨-, distance, above, within, rfl⟩
      refine ⟨distance - start, by omega, ?_⟩
      rw [Segment.locationAfter_piece, Nat.add_sub_cancel' above]
  · rw [pieces_cons_of_le rest (Nat.not_lt.mp first)]
    simp only [first, false_and, false_or]

/-- A longer stretch covers what a shorter one in it covers. -/
theorem mem_locationsOf_pieces_of_within {row : List Segment} {start stop first last : Nat}
    (starts : first ≤ start) (stops : stop ≤ last) {l : Location}
    (member : l ∈ locationsOf (pieces row start stop)) :
    l ∈ locationsOf (pieces row first last) := by
  induction row generalizing start stop first last with
  | nil => cases member
  | cons s rest ih =>
    rw [mem_locationsOf_pieces_cons] at member ⊢
    rcases member with ⟨inside, distance, above, below, at_distance⟩ | later
    · exact .inl ⟨by omega, distance, by omega, by omega, at_distance⟩
    · exact .inr (ih (by omega) (by omega) later)

/-- A stretch covers what its part up to a distance and its part from there cover. -/
theorem mem_locationsOf_pieces_iff {row : List Segment} {start middle stop : Nat}
    (ordered : start ≤ middle) (within : middle ≤ stop) {l : Location} :
    l ∈ locationsOf (pieces row start stop) ↔
      l ∈ locationsOf (pieces row start middle) ∨ l ∈ locationsOf (pieces row middle stop) := by
  constructor
  · intro member
    induction row generalizing start middle stop with
    | nil => cases member
    | cons s rest ih =>
      simp only [mem_locationsOf_pieces_cons] at member ⊢
      rcases member with ⟨inside, distance, above, below, at_distance⟩ | later
      -- One of the two parts may have no piece of this segment, and then the other has all of it.
      · by_cases ahead : middle < min stop s.length ∧ middle ≤ distance
        · exact .inr (.inl ⟨ahead.1, distance, ahead.2, below, at_distance⟩)
        · exact .inl (.inl ⟨by omega, distance, above, by omega, at_distance⟩)
      · exact (ih (by omega) (by omega) later).imp .inr .inr
  · rintro (before | after)
    · exact mem_locationsOf_pieces_of_within (Nat.le_refl start) within before
    · exact mem_locationsOf_pieces_of_within ordered (Nat.le_refl stop) after

theorem jointError?_eq_none_iff {before after : Segment} :
    jointError? before after = none ↔
      before.lastLocation.Equivalent after.firstLocation ∧
        (before.on.Same after.on → before.departing = after.departing) := by
  unfold jointError?
  split
  next apart => simp [apart]
  next meet =>
    have meet := not_not.mp meet
    split
    next back => simp [meet, back]
    next ahead => simpa [meet] using ahead

theorem firstJointError?_cons_cons (s t : Segment) (row : List Segment) :
    firstJointError? (s :: t :: row) = none ↔
      jointError? s t = none ∧ firstJointError? (t :: row) = none := by
  simp only [firstJointError?]
  cases jointError? s t <;> simp

theorem firstJointError?_tail {s : Segment} {row : List Segment}
    (joined : firstJointError? (s :: row) = none) : firstJointError? row = none := by
  cases row with
  | nil => rfl
  | cons t row => exact ((firstJointError?_cons_cons s t row).mp joined).2

/-- The pieces of a continuous row are continuous. -/
theorem firstJointError?_pieces {row : List Segment} (joined : firstJointError? row = none)
    (start stop : Nat) : firstJointError? (pieces row start stop) = none := by
  induction row generalizing start stop with
  | nil => rfl
  | cons s rest ih =>
    have rest_joined := firstJointError?_tail joined
    by_cases first : start < min stop s.length
    · rw [pieces_cons_of_lt rest first]
      have later := ih rest_joined 0 (stop - s.length)
      cases rest with
      | nil => rfl
      | cons t rest =>
        by_cases short : stop ≤ s.length
        · rw [pieces_eq_nil _ (by omega)]
          rfl
        · -- The stretch goes beyond the segment, so that both sides of the joint are in it.
          have positive := t.length_pos
          have further : 0 < min (stop - s.length) t.length := by omega
          rw [pieces_cons_of_lt rest further] at later ⊢
          refine (firstJointError?_cons_cons _ _ _).mpr ⟨?_, later⟩
          have joint := ((firstJointError?_cons_cons s t rest).mp joined).1
          rw [jointError?_eq_none_iff] at joint ⊢
          have whole : s.start + min stop s.length = s.stop := by
            have ordered := s.start_lt_stop
            unfold Segment.length at short ⊢
            omega
          simpa only [Segment.lastLocation, Segment.firstLocation, Segment.piece, whole,
            Segment.locationAt, Segment.arriving, Nat.add_zero] using joint
    · rw [pieces_cons_of_le rest (Nat.not_lt.mp first)]
      exact ih rest_joined _ _

theorem build_eq_ok_iff {row : List Segment} {route : Route} :
    build row = .ok route ↔ route.segments = row := by
  constructor
  · intro built
    unfold build at built
    split at built
    · split at built <;> cases built
      rfl
    · cases built
  · rintro rfl
    unfold build
    rw [dif_pos route.nonempty]
    split
    next error joint => simp [route.joined] at joint
    next => rfl

theorem part_eq_build (r : Route) {start stop : Nat} (ordered : start < stop)
    (within : stop ≤ r.length) : r.part start stop = build (pieces r.segments start stop) := by
  have inside : 0 ≤ (start : Int) ∧ (start : Int) < stop ∧ (stop : Int) ≤ r.length := by omega
  simp only [part, if_pos inside, Int.toNat_natCast]

/-- A route has each part that is not empty and within it, and that part is made of the pieces. -/
theorem part_eq_ok (r : Route) {start stop : Nat} (ordered : start < stop)
    (within : stop ≤ r.length) :
    ∃ held, r.part start stop = .ok held ∧ held.segments = pieces r.segments start stop := by
  -- The pieces have a positive length together, so that there are some.
  have nonempty : pieces r.segments start stop ≠ [] := by
    intro none
    have lengths := lengthOf_pieces (Nat.le_of_lt ordered) within
    rw [none] at lengths
    simp only [lengthOf] at lengths
    omega
  have joined := firstJointError?_pieces r.joined start stop
  refine ⟨⟨_, nonempty, joined⟩, ?_, rfl⟩
  rw [r.part_eq_build ordered within, build_eq_ok_iff]

theorem onTrack_iff {r : Route} {track : Track} :
    r.onTrack track = true ↔ LiesOn r.segments track := List.all_eq_true

end Route

end Trackage
