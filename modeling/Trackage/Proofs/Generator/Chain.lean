import Mathlib.Data.List.Perm.Basic
import Trackage.Generator.Chain
import Trackage.Proofs.Track.RoundTrip

/-!
Chains of junctions. What is drawn lies where it may lie, and what is drawn from a list without being
put back is a part of the list, in some order. The lines that are drawn for a chain are those of its
links, one for each place in order. They define a track of the sections of these links, and the lengths
of the links are read from them again.
-/

namespace Trackage.Draws

variable {draws later : Draws} {least greatest drawn : Int}

theorem exists_between (draws : Draws) (ordered : least ≤ greatest) :
    ∃ drawn later, draws.between least greatest = .ok (drawn, later) := by
  unfold between
  rw [if_neg (Int.not_lt.mpr ordered)]
  exact ⟨_, _, rfl⟩

theorem next_lt (draws : Draws) {count : Nat} (positive : 0 < count) :
    (draws.next count).1 < count := by
  have nonneg := Int.emod_nonneg (draws.numbers.getD (draws.taken % draws.numbers.length) 0)
    (Int.natCast_ne_zero.mpr (Nat.ne_of_gt positive))
  have below := Int.emod_lt_of_pos (draws.numbers.getD (draws.taken % draws.numbers.length) 0)
    (Int.natCast_pos.mpr positive)
  simp only [next]
  omega

theorem between_bounds (drawn_eq : draws.between least greatest = .ok (drawn, later)) :
    least ≤ drawn ∧ drawn ≤ greatest := by
  unfold between at drawn_eq
  split at drawn_eq
  · cases drawn_eq
  next ordered =>
    have below : (draws.next (greatest - least + 1).toNat).1 < (greatest - least + 1).toNat :=
      draws.next_lt (by omega)
    simp only [Except.ok.injEq, Prod.mk.injEq] at drawn_eq
    obtain ⟨rfl, -⟩ := drawn_eq
    omega

/-- What is drawn and what is left make up the list. -/
theorem sample_subperm {α : Type} (draws : Draws) (pool : List α) (count : Nat) :
    (draws.sample pool count).1.Subperm pool := by
  induction count generalizing draws pool with
  | zero => exact List.nil_subperm
  | succ count ih =>
    have others := ih (draws.next pool.length).2 (pool.eraseIdx (draws.next pool.length).1)
    simp only [sample]
    cases chosen : pool[(draws.next pool.length).1]? with
    | none => exact others.trans (List.eraseIdx_sublist _ _).subperm
    | some first =>
      obtain ⟨inside, rfl⟩ := List.getElem?_eq_some_iff.mp chosen
      exact ((List.subperm_cons _).mpr others).trans (List.getElem_cons_eraseIdx_perm inside).subperm

/-- Nothing is drawn twice. -/
theorem nodup_sample {α : Type} (draws : Draws) {pool : List α} (distinct : pool.Nodup)
    (count : Nat) : (draws.sample pool count).1.Nodup := by
  obtain ⟨row, perm, part⟩ := draws.sample_subperm pool count
  exact perm.nodup_iff.mp (distinct.sublist part)

theorem length_sample_le {α : Type} (draws : Draws) (pool : List α) (count : Nat) :
    (draws.sample pool count).1.length ≤ count := by
  induction count generalizing draws pool with
  | zero => exact Nat.le_refl 0
  | succ count ih =>
    have others := ih (draws.next pool.length).2 (pool.eraseIdx (draws.next pool.length).1)
    simp only [sample, List.length_append]
    have one : (pool[(draws.next pool.length).1]?).toList.length ≤ 1 := Option.length_toList_le
    omega

end Trackage.Draws

namespace Trackage.Chain

/-- The name of the junction at a place of the chain. -/
def junction (place : Nat) : String := s!"J{place}"

theorem junction_toList (place : Nat) : (junction place).toList = 'J' :: Nat.toDigits 10 place := by
  have digits : (toString place).toList = Nat.toDigits 10 place := by
    rw [Nat.toString_eq_repr, Nat.toList_repr]
  rw [junction, String.toList_append, digits]
  rfl

theorem junction_injective {place other : Nat} (same : junction place = junction other) :
    place = other :=
  Text.toString_natural_injective ((String.append_right_inj _).mp same)

theorem isWord_junction (place : Nat) : Text.IsWord (junction place).toList := by
  rw [junction_toList]
  exact ⟨List.cons_ne_nil _ _,
    List.forall_mem_cons.mpr ⟨by decide, (Text.isWord_toDigits place).2⟩⟩

/-- A link of the chain: the place that it leads on from, and its length. -/
structure Link where
  place : Nat
  length : Nat
  length_pos : 0 < length

namespace Link

/-- The section of a link. -/
def on (link : Link) : Section where
  length := link.length
  first := ⟨junction link.place, .normal⟩
  second := ⟨junction (link.place + 1), .facing⟩
  length_pos := link.length_pos
  first_ne_second := by simp

variable {link other : Link}

theorem sectionLine_eq (link : Link) : sectionLine link.place link.length = link.on.text := by
  have number : (link.length : Int).repr = link.length.repr := rfl
  have text (s : String) : toString s = s := rfl
  apply String.toList_injective
  simp [sectionLine, Section.text, EndPoint.text, Branch.text, on, junction, number, text]

theorem writable_on (within : Text.isWritable link.length = true) : link.on.Writable := by
  refine ⟨fun e on_link => ?_, Text.isWritable_iff.mp within⟩
  rcases Section.mem_ends.mp on_link with rfl | rfl <;> exact isWord_junction _

/-- The two ends of links at different places are different: the near ends by their junctions, and a
near end from a far one by its branch. -/
theorem apart_on (places : link.place ≠ other.place) : link.on.Apart other.on := by
  intro e on_link on_other
  rcases Section.mem_ends.mp on_link with rfl | rfl <;>
    rcases Section.mem_ends.mp on_other with same | same
  · exact places (junction_injective (congrArg EndPoint.junction same))
  · cases congrArg EndPoint.branch same
  · cases congrArg EndPoint.branch same
  · exact places (Nat.succ.inj (junction_injective (congrArg EndPoint.junction same)))

/-- Links at different places are different sections. -/
theorem not_same_on (places : link.place ≠ other.place) : ¬ link.on.Same other.on := fun same =>
  apart_on places _ (Section.mem_ends.mpr (.inl rfl))
    ((same.mem_ends_iff link.on.first).mp (Section.mem_ends.mpr (.inl rfl)))

/-- The length is read from the line again. -/
theorem lineLength_text (writable : link.on.Writable) :
    lineLength link.on.text = .ok link.length := by
  unfold lineLength
  rw [writable.words_text, Section.lineWords]
  exact Outcome.mapError_eq_ok_iff.mpr (Text.readNumeral_toDigits writable.digits)

end Link

section Lines

variable {draws later : Draws} {least greatest : Int} {place count : Nat} {lines : List String}

theorem lines_eq_drawLines (draws : Draws) (sections : Int) (least greatest : Option Int) :
    Chain.lines draws (some sections) least greatest =
      drawLines draws least greatest 0 sections.toNat := rfl

/-- The lines from a place on begin with the one of that place, for which a length was drawn. -/
theorem drawLines_succ_eq_ok_iff :
    drawLines draws (some least) (some greatest) place (count + 1) = .ok (lines, later) ↔
      ∃ length next rest, draws.between least greatest = .ok (length, next) ∧
        Text.isWritable length = true ∧ Text.isWritable (place + 1) = true ∧
        drawLines next (some least) (some greatest) (place + 1) count = .ok (rest, later) ∧
        lines = sectionLine place length :: rest := by
  rw [drawLines]
  simp only [needed, Outcome.bind_eq_ok_iff, Except.ok.injEq, exists_eq_left']
  constructor
  · rintro ⟨⟨length, next⟩, drawn, made⟩
    dsimp only at made
    split at made
    next writable =>
      obtain ⟨⟨rest, _⟩, others, made⟩ := Outcome.bind_eq_ok_iff.mp made
      obtain ⟨rfl, rfl⟩ := Prod.mk.inj (Except.ok.inj made)
      obtain ⟨length_within, place_within⟩ := Bool.and_eq_true_iff.mp writable
      exact ⟨length, next, rest, drawn, length_within, place_within, others, rfl⟩
    next => cases made
  · rintro ⟨length, next, rest, drawn, length_within, place_within, others, rfl⟩
    refine ⟨(length, next), drawn, ?_⟩
    dsimp only
    rw [if_pos (Bool.and_eq_true_iff.mpr ⟨length_within, place_within⟩)]
    exact Outcome.bind_eq_ok_iff.mpr ⟨(rest, later), others, rfl⟩

/-- Lines can be drawn when the greatest length and the last place can be written. -/
theorem exists_drawLines (draws : Draws) (positive : 1 ≤ least) (ordered : least ≤ greatest)
    (greatest_within : Text.isWritable greatest = true) {last : Nat}
    (last_within : Text.isWritable last = true) (reached : place + count ≤ last) :
    ∃ lines later, drawLines draws (some least) (some greatest) place count = .ok (lines, later) := by
  induction count generalizing draws place with
  | zero => exact ⟨_, _, rfl⟩
  | succ count ih =>
    obtain ⟨length, next, drawn⟩ := draws.exists_between ordered
    obtain ⟨rest, later, others⟩ := ih next (show place + 1 + count ≤ last by omega)
    have bounds := Draws.between_bounds drawn
    refine ⟨_, later, drawLines_succ_eq_ok_iff.mpr ⟨length, next, rest, drawn, ?_, ?_, others, rfl⟩⟩
    · exact Text.isWritable_of_natAbs_le (by omega) greatest_within
    · exact Text.isWritable_of_natAbs_le (by omega) last_within

/-- No lines are drawn when all lengths that can be drawn are too long to be written. -/
theorem lines_of_not_isWritable (draws : Draws) (positive : 1 ≤ least) (ordered : least ≤ greatest)
    (long : Text.isWritable least = false) {sections : Nat} (wanted : 0 < sections) :
    Chain.lines draws (some sections) (some least) (some greatest) =
      .error (.ofNumeral .unwritable) := by
  obtain ⟨count, rfl⟩ := Nat.exists_eq_add_one_of_ne_zero wanted.ne'
  obtain ⟨length, next, drawn⟩ := draws.exists_between ordered
  have bounds := Draws.between_bounds drawn
  -- What is drawn is no less than the least length, and so no shorter when it is written.
  have too_long : ¬ Text.isWritable length = true := by
    intro writable
    have least_writable : Text.isWritable least = true :=
      Text.isWritable_of_natAbs_le (by omega : least.natAbs ≤ length.natAbs) writable
    exact Bool.false_ne_true (long.symm.trans least_writable)
  rw [lines_eq_drawLines, Int.toNat_natCast, drawLines]
  refine Outcome.bind_eq_error_iff.mpr (.inr ⟨least, rfl, ?_⟩)
  refine Outcome.bind_eq_error_iff.mpr (.inr ⟨greatest, rfl, ?_⟩)
  refine Outcome.bind_eq_error_iff.mpr (.inr ⟨(length, next), drawn, ?_⟩)
  dsimp only
  rw [if_neg fun both => too_long (Bool.and_eq_true_iff.mp both).1]
  rfl

/-- What is drawn are the lines of links, one for each place. -/
theorem exists_links (positive : 1 ≤ least)
    (drawn : drawLines draws (some least) (some greatest) place count = .ok (lines, later)) :
    ∃ links : List Link, links.map Link.place = List.range' place count ∧
      lines = links.map (fun link => link.on.text) ∧ ∀ link ∈ links, link.on.Writable := by
  induction count generalizing draws place lines with
  | zero =>
    cases drawn
    exact ⟨[], rfl, rfl, by simp⟩
  | succ count ih =>
    obtain ⟨length, next, rest, length_drawn, within, -, others, rfl⟩ :=
      drawLines_succ_eq_ok_iff.mp drawn
    obtain ⟨links, places, rfl, writable⟩ := ih others
    have bounds := Draws.between_bounds length_drawn
    obtain ⟨length, rfl⟩ := Int.eq_ofNat_of_zero_le (show 0 ≤ length by omega)
    let link : Link := ⟨place, length, by omega⟩
    refine ⟨link :: links, congrArg (place :: ·) places, ?_, ?_⟩
    · rw [List.map_cons, ← link.sectionLine_eq]
    · exact List.forall_mem_cons.mpr ⟨Link.writable_on within, writable⟩

end Lines

section Track

variable {links : List Link} {start count : Nat}

theorem pairwise_place_ne (places : links.map Link.place = List.range' start count) :
    links.Pairwise fun link other => link.place ≠ other.place := by
  rw [← List.pairwise_map, places]
  exact List.nodup_range'

/-- The lines of links define the track of their sections. -/
theorem exists_ofLines (places : links.map Link.place = List.range' start count)
    (writable : ∀ link ∈ links, link.on.Writable) :
    ∃ track, Track.ofLines (links.map fun link => link.on.text) = .ok track ∧
      track.sections = links.map Link.on := by
  have apart : (links.map Link.on).Pairwise Section.Apart :=
    List.pairwise_map.mpr ((pairwise_place_ne places).imp Link.apart_on)
  have read := @Track.readLines_texts .empty _ apart (List.forall_mem_map.mpr writable) 1
  rwa [List.map_map] at read

/-- The lengths of links are read from their lines. -/
theorem mapM_lineLength (writable : ∀ link ∈ links, link.on.Writable) :
    (links.map fun link => link.on.text).mapM lineLength =
      .ok (links.map fun link => (link.length : Int)) := by
  rw [Outcome.mapM_eq_ok_iff, List.forall₂_map_left_iff, List.forall₂_map_right_iff,
    List.forall₂_same]
  exact fun link member => Link.lineLength_text (writable link member)

end Track

end Trackage.Chain
