import Trackage.Proofs.Railway.Turns

/-!
Moves of several trains at once. Such a move ends where moves of the single trains end that are made
one after the other in the order of identifiers, and grants what these grant.
-/

namespace Trackage

namespace Railway

attribute [ext] Railway

/-- The targets of some trains alone. -/
def targetsAmong (targets : Int → Option Int) (identifiers : List Int) (identifier : Nat) :
    Option Int :=
  if (identifier : Int) ∈ identifiers then targets identifier else none

/-- Moves trains one after the other. The answer holds all that was granted on the way. -/
def extendInTurn (railway : Railway) (targets : Int → Option Int) :
    List Int → Railway × List (Nat × List Segment)
  | [] => (railway, [])
  | identifier :: rest =>
    let (moved, granted) := railway.extend (targetsAmong targets [identifier])
    let (last, others) := moved.extendInTurn targets rest
    (last, granted ++ others)

/-- What the move of a train is answered: the stretch of its route from where it stopped to where it
stops then. -/
def grantAnswer (railway : Railway) (targets : Nat → Option Int) (i : Nat) :
    Option (Nat × List Segment) := do
  let t ← railway.trains[i]?
  let moved ← (railway.extend targets).1.trains[i]?
  let _ ← targets i
  return (i, Route.pieces t.route.segments t.stop moved.stop)

theorem grantAnswer_eq_none {railway : Railway} {targets : Nat → Option Int} {i : Nat}
    (untargeted : targets i = none) : railway.grantAnswer targets i = none := by
  unfold grantAnswer
  cases railway.trains[i]? with
  | none => rfl
  | some t =>
    cases (railway.extend targets).1.trains[i]? with
    | none => rfl
    | some moved => rw [untargeted]; rfl

theorem grantAnswer_congr {railway other : Railway} {targets others : Nat → Option Int} {i : Nat}
    (trains : railway.trains[i]? = other.trains[i]?)
    (moved : (railway.extend targets).1.trains[i]? = (other.extend others).1.trains[i]?)
    (target : targets i = others i) :
    railway.grantAnswer targets i = other.grantAnswer others i := by
  unfold grantAnswer
  rw [trains, moved, target]

private theorem filterMap_eq_range {α β : Type} (row : List α) (f : α → Option β) :
    row.filterMap f = (List.range row.length).filterMap fun i => row[i]?.bind f := by
  induction row with
  | nil => rfl
  | cons a row ih =>
    rw [List.length_cons, List.range_succ_eq_map, List.filterMap_cons, List.filterMap_cons,
      List.filterMap_map, ih]
    rfl

/-- Where nothing comes before an index, what it gives comes first. -/
private theorem filterMap_range_eq_append {β : Type} {f g h : Nat → Option β} {i : Int}
    (before : ∀ j : Nat, (j : Int) < i → f j = none)
    (first_eq : ∀ j : Nat, g j = if (j : Int) = i then f j else none)
    (others_eq : ∀ j : Nat, h j = if (j : Int) = i then none else f j) (n : Nat) :
    (List.range n).filterMap f = (List.range n).filterMap g ++ (List.range n).filterMap h := by
  induction n with
  | zero => rfl
  | succ n ih =>
    simp only [List.range_succ, List.filterMap_append, ih]
    by_cases at_index : (n : Int) = i
    · have none_before : (List.range n).filterMap h = [] := by
        rw [List.filterMap_eq_nil_iff]
        intro j member
        have below := List.mem_range.mp member
        rw [others_eq, before j (by omega), ite_self]
      have no_other : h n = none := by rw [others_eq, if_pos at_index]
      have same : g n = f n := by rw [first_eq, if_pos at_index]
      simp [List.filterMap_cons, none_before, no_other, same]
    · have no_first : g n = none := by rw [first_eq, if_neg at_index]
      have same : h n = f n := by rw [others_eq, if_neg at_index]
      simp [List.filterMap_cons, no_first, same]

namespace Sound

variable {track : Track} {railway : Railway} {targets : Nat → Option Int}

/-- A move is answered train by train. -/
theorem extend_answers (sound : Sound track railway) :
    (railway.extend targets).2 =
      (List.range railway.trains.length).filterMap (railway.grantAnswer targets) := by
  obtain ⟨granted, count, served, answered, trains_eq⟩ := sound.extend_served targets
  have moved : MovedBy railway targets granted := ⟨count, served, trains_eq⟩
  have zip_length : (railway.trains.zip granted).length = railway.trains.length := by
    rw [List.length_zip, count, Nat.min_self]
  simp only [Railway.extend, answered, Option.getD_some]
  rw [filterMap_eq_range, zip_length]
  refine List.filterMap_congr fun i member => ?_
  have train_at := List.getElem?_eq_getElem (List.mem_range.mp member)
  obtain ⟨row, row_at⟩ := moved.exists_granted train_at
  have placed := sound.placed _ (List.mem_of_getElem? train_at)
  -- What a train is granted can be told from where it stops before and after.
  obtain ⟨-, row_eq⟩ := granted_eq_pieces placed (moved.greatest train_at row_at).leading
  have zip_at : (railway.trains.zip granted)[i]? = some (_, row) :=
    List.getElem?_zip_eq_some.mpr ⟨train_at, row_at⟩
  rw [zip_at, grantAnswer, train_at, moved.extended_at train_at row_at]
  simp only [Option.bind_some, sound.identifier_eq train_at]
  cases targets i with
  | none => rfl
  | some stop => exact congrArg (fun row => some (i, row)) row_eq

end Sound

/-- Targets are divided into that of one train, before which no train has any, and those of the
others. -/
structure FirstOf (i : Int) (targets first others : Nat → Option Int) : Prop where
  before : ∀ j : Nat, (j : Int) < i → targets j = none
  first_eq : ∀ j : Nat, first j = if (j : Int) = i then targets j else none
  others_eq : ∀ j : Nat, others j = if (j : Int) = i then none else targets j

namespace FirstOf

variable {i : Int} {targets first others : Nat → Option Int} {j : Nat}

theorem first_none (divided : FirstOf i targets first others) (other : (j : Int) ≠ i) :
    first j = none := by
  rw [divided.first_eq, if_neg other]

theorem others_none (divided : FirstOf i targets first others) (itself : (j : Int) = i) :
    others j = none := by
  rw [divided.others_eq, if_pos itself]

theorem others_same (divided : FirstOf i targets first others) (other : (j : Int) ≠ i) :
    others j = targets j := by
  rw [divided.others_eq, if_neg other]

theorem first_agrees (divided : FirstOf i targets first others) (itself : (j : Int) = i) :
    ∀ k ≤ j, first k = targets k := by
  intro k within
  rw [divided.first_eq]
  split
  · rfl
  next other => exact (divided.before k (by omega)).symm

variable {track : Track} {railway : Railway} (divided : FirstOf i targets first others)
  (sound : Sound track railway)
include divided sound

/-- A move of the others after the first takes every train to where one move takes it. -/
theorem trains_eq (j : Nat) :
    ((railway.extend first).1.extend others).1.trains[j]? =
      (railway.extend targets).1.trains[j]? := by
  have between := sound.extend first
  induction j using Nat.strong_induction_on with
  | _ j ih =>
    rcases Int.lt_trichotomy j i with below | itself | above
    · have untargeted := divided.before j below
      have other : (j : Int) ≠ i := by omega
      rw [between.unmoved ((divided.others_same other).trans untargeted),
        sound.unmoved (divided.first_none other), sound.unmoved untargeted]
    · rw [between.unmoved (divided.others_none itself),
        sound.numbered.extend_congr (divided.first_agrees itself) j (Nat.le_refl j)]
    -- At the turn of a later train both railways are alike.
    · have other : (j : Int) ≠ i := by omega
      refine between.extend_eq_of_atTurn_eq sound (Railway.ext rfl ?_) (divided.others_same other)
      refine List.ext_getElem? fun k => ?_
      rw [between.atTurn_getElem?, sound.atTurn_getElem?]
      split
      next earlier => exact ih k earlier
      next later => exact sound.unmoved (divided.first_none (by omega))

/-- A move of several trains is a move of the first train that has a target, and after it a move of
the others. -/
theorem extend_eq :
    railway.extend targets =
      (((railway.extend first).1.extend others).1,
        (railway.extend first).2 ++ ((railway.extend first).1.extend others).2) := by
  have between := sound.extend first
  have moved_eq := divided.trains_eq sound
  refine Prod.ext (Railway.ext rfl (List.ext_getElem? fun j => (moved_eq j).symm)) ?_
  rw [sound.extend_answers, sound.extend_answers, between.extend_answers, railway.extend_length]
  refine filterMap_range_eq_append (fun j below => grantAnswer_eq_none (divided.before j below)) ?_ ?_ _
  · intro j
    split
    next itself =>
      have agrees := divided.first_agrees itself
      exact grantAnswer_congr rfl (sound.numbered.extend_congr agrees j (Nat.le_refl j))
        (agrees j (Nat.le_refl j))
    next other => exact grantAnswer_eq_none (divided.first_none other)
  · intro j
    split
    next itself => exact grantAnswer_eq_none (divided.others_none itself)
    next other =>
      exact grantAnswer_congr (sound.unmoved (divided.first_none other)) (moved_eq j)
        (divided.others_same other)

end FirstOf

/-- Of ascending identifiers the first comes before the others. -/
theorem firstOf_targetsAmong {targets : Int → Option Int} {i : Int} {identifiers : List Int}
    (first_least : ∀ j ∈ identifiers, i < j) :
    FirstOf i (targetsAmong targets (i :: identifiers)) (targetsAmong targets [i])
      (targetsAmong targets identifiers) where
  before := by
    intro j below
    refine if_neg fun member => ?_
    rcases List.mem_cons.mp member with itself | later
    · omega
    · have above := first_least _ later
      omega
  first_eq := by
    intro j
    unfold targetsAmong
    by_cases itself : (j : Int) = i <;> simp [itself]
  others_eq := by
    intro j
    unfold targetsAmong
    by_cases itself : (j : Int) = i
    · have absent : (j : Int) ∉ identifiers := fun member => by
        have above := first_least _ member
        omega
      rw [if_neg absent, if_pos itself]
    · simp [itself]

/-- Without any targets nothing moves. -/
theorem Sound.extend_untargeted {track : Track} {railway : Railway} (sound : Sound track railway)
    {targets : Nat → Option Int} (untargeted : ∀ j, targets j = none) :
    railway.extend targets = (railway, []) := by
  refine Prod.ext (Railway.ext rfl (List.ext_getElem? fun j => sound.unmoved (untargeted j))) ?_
  rw [sound.extend_answers, List.filterMap_eq_nil_iff]
  exact fun j _ => grantAnswer_eq_none (untargeted j)

theorem Sound.extend_eq_extendInTurn {track : Track} {railway : Railway}
    (sound : Sound track railway) (targets : Int → Option Int) {identifiers : List Int}
    (ascending : identifiers.Pairwise (· < ·)) :
    railway.extend (targetsAmong targets identifiers) =
      railway.extendInTurn targets identifiers := by
  induction ascending generalizing railway with
  | nil => exact sound.extend_untargeted fun j => if_neg List.not_mem_nil
  | cons first_least _ ih =>
    rw [(firstOf_targetsAmong first_least).extend_eq sound, ih (sound.extend _)]
    rfl

/-- A target for a train that is not there changes nothing and grants nothing. -/
theorem Sound.extend_unknown {track : Track} {railway : Railway} (sound : Sound track railway)
    (targets : Int → Option Int) {identifier : Int} (unknown : railway.train? identifier = none) :
    railway.extend (targetsAmong targets [identifier]) = (railway, []) := by
  have answerless (j : Nat) :
      railway.trains[j]? = none ∨ targetsAmong targets [identifier] j = none := by
    by_cases itself : (j : Int) = identifier
    · subst itself
      cases train_at : railway.trains[j]? with
      | none => exact .inl rfl
      | some t => cases (sound.train?_eq train_at).symm.trans unknown
    · exact .inr (if_neg (by simpa using itself))
  refine Prod.ext (Railway.ext rfl (List.ext_getElem? fun j => ?_)) ?_
  · rcases answerless j with absent | untargeted
    · rw [absent, List.getElem?_eq_none_iff, railway.extend_length]
      exact List.getElem?_eq_none_iff.mp absent
    · exact sound.unmoved untargeted
  · rw [sound.extend_answers, List.filterMap_eq_nil_iff]
    rintro j -
    rcases answerless j with absent | untargeted
    · unfold grantAnswer
      rw [absent]
      rfl
    · exact grantAnswer_eq_none untargeted

/-- A move of several trains on a railway that is reached ends in the railway, and with the grants,
to which the moves of the single trains lead that are made in the order of their identifiers.
Identifiers of no train change nothing. -/
theorem extend_in_turn (track : Track) (calls : List Call) (targets : Int → Option Int)
    (identifiers : List Int) (ascending : identifiers.Pairwise (· < ·))
    (named : ∀ identifier, identifier ∈ identifiers ↔ (targets identifier).isSome = true) :
    let reached := run (.empty (some track)) calls
    reached.extend (fun identifier => targets identifier) =
        reached.extendInTurn targets identifiers ∧
      ∀ identifier, reached.train? identifier = none →
        reached.extend (targetsAmong targets [identifier]) = (reached, []) := by
  intro reached
  have sound : Sound track reached := (sound_empty track).run calls
  have all_named : (fun identifier : Nat => targets identifier) =
      targetsAmong targets identifiers := by
    funext identifier
    unfold targetsAmong
    split
    next => rfl
    next unnamed => exact Option.not_isSome_iff_eq_none.mp fun given => unnamed ((named _).mpr given)
  rw [all_named]
  exact ⟨sound.extend_eq_extendInTurn targets ascending,
    fun identifier unknown => sound.extend_unknown targets unknown⟩

/-- Two trains that face each other, and two identifiers without a train, one of them negative. -/
theorem extend_in_turn_facing :
    let reached := run (.empty (some (.single .line))) [.add aheadRoute 0 2, .add backRoute 0 4]
    let targets : Int → Option Int := fun identifier =>
      if identifier ∈ [-1, 0, 1, 7] then some 9 else none
    reached.extend (fun identifier => targets identifier) =
        reached.extendInTurn targets [-1, 0, 1, 7] ∧
      reached.extend (targetsAmong targets [-1]) = (reached, []) := by
  intro reached targets
  have named (identifier : Int) :
      identifier ∈ [-1, 0, 1, 7] ↔ (targets identifier).isSome = true := by
    change _ ↔ (if identifier ∈ [-1, 0, 1, 7] then some (9 : Int) else none).isSome = true
    split <;> simp_all
  obtain ⟨batch, unknown⟩ :=
    extend_in_turn (.single .line) [.add aheadRoute 0 2, .add backRoute 0 4] targets [-1, 0, 1, 7]
      (by decide) named
  have unnumbered : reached.train? (-1) = none :=
    List.find?_eq_none.mpr fun t _ => by simp only [beq_iff_eq]; omega
  exact ⟨batch, unknown (-1) unnumbered⟩

end Railway

end Trackage
