import Mathlib.Data.List.Nodup
import Mathlib.Order.Bounds.Defs
import Trackage.Proofs.Track.RoundTrip

/-!
The grammar of written tracks. A definition is read exactly when each of its lines writes a section
and no end-point is written twice. Any other definition is refused at the line that ends its first
unacceptable part, for the first thing that is wrong with this line.
-/

namespace Trackage

attribute [ext] EndPoint

theorem Branch.ofText?_eq_some_iff {name : String} {branch : Branch} :
    ofText? name = some branch ↔ branch.text = name := by
  constructor
  · intro found
    have named := List.find?_some found
    exact eq_of_beq named
  · rintro rfl
    exact branch.ofText?_text

theorem Branch.text_injective {a b : Branch} (same : a.text = b.text) : a = b := by
  have read := a.ofText?_text
  rw [same, b.ofText?_text] at read
  exact (Option.some.inj read).symm

theorem Branch.ofText?_eq_none_iff {name : String} :
    ofText? name = none ↔ ∀ branch : Branch, branch.text ≠ name := by
  rw [Option.eq_none_iff_forall_ne_some]
  simp only [ne_eq, ofText?_eq_some_iff]

/-- The first word of a line has no more digits than a numeral may have. -/
def FewDigits (line : String) : Prop :=
  ∀ numeral ∈ (Text.words line).head?, numeral.toList.countP Char.isDigit ≤ Text.digitLimit

/-- The first word of a line is a numeral, and has so many digits, more than are read. -/
def Overlong (line : String) (digits : Nat) : Prop :=
  ∃ numeral ∈ (Text.words line).head?, ∃ value, Text.IsNumeral numeral.toList value ∧
    numeral.toList.countP Char.isDigit = digits ∧ Text.digitLimit < digits

theorem FewDigits.not_overlong {line : String} (few : FewDigits line) (digits : Nat) :
    ¬ Overlong line digits := by
  rintro ⟨numeral, first, value, -, rfl, many⟩
  exact absurd (few numeral first) (Nat.not_le.mpr many)

/-- A line writes a section: its words are a numeral for the length, and the junction and the branch
of each end. -/
def Section.WrittenAs (s : Section) (line : String) : Prop :=
  ∃ numeral, Text.IsNumeral numeral.toList s.length ∧
    Text.words line = [numeral, s.first.junction, s.first.branch.text, s.second.junction,
      s.second.branch.text]

/-- Lines write sections, one each, whose end-points are all different. -/
structure Define (lines : List String) (sections : List Section) : Prop where
  written : List.Forall₂ (fun line s => s.WrittenAs line) lines sections
  ends_nodup : (sections.flatMap Section.ends).Nodup

/-- The first thing that is wrong with a line behind those that wrote some sections. -/
inductive Refused (before : List Section) (line : String) : FormatReason → Prop
  | length (absent : ∀ numeral ∈ (Text.words line).head?, ∀ value,
      ¬ Text.IsNumeral numeral.toList value) : Refused before line .length
  | itemCount {numeral : String} {items : List String} {value : Int}
      (cut : Text.words line = numeral :: items) (isNumeral : Text.IsNumeral numeral.toList value)
      (count : items.length ≠ 4) : Refused before line .itemCount
  | firstBranch {numeral junction₁ branch₁ junction₂ branch₂ : String} {value : Int}
      (cut : Text.words line = [numeral, junction₁, branch₁, junction₂, branch₂])
      (isNumeral : Text.IsNumeral numeral.toList value)
      (unknown : ∀ branch : Branch, branch.text ≠ branch₁) : Refused before line .firstBranch
  | secondBranch {numeral junction₁ junction₂ branch₂ : String} {branch₁ : Branch} {value : Int}
      (cut : Text.words line = [numeral, junction₁, branch₁.text, junction₂, branch₂])
      (isNumeral : Text.IsNumeral numeral.toList value)
      (unknown : ∀ branch : Branch, branch.text ≠ branch₂) : Refused before line .secondBranch
  | lengthNotPositive {numeral junction₁ junction₂ : String} {branch₁ branch₂ : Branch} {value : Int}
      (cut : Text.words line = [numeral, junction₁, branch₁.text, junction₂, branch₂.text])
      (isNumeral : Text.IsNumeral numeral.toList value) (low : value ≤ 0) :
      Refused before line (.badSection (.lengthNotPositive value))
  | equalEndPoints {numeral junction : String} {branch : Branch} {value : Int}
      (cut : Text.words line = [numeral, junction, branch.text, junction, branch.text])
      (isNumeral : Text.IsNumeral numeral.toList value) (positive : 0 < value) :
      Refused before line (.badSection (.equalEndPoints ⟨junction, branch⟩))
  | duplicate {s t : Section} (written : s.WrittenAs line) (stored : t ∈ before)
      (same : t.Same s) : Refused before line .duplicate
  | firstTaken {s t : Section} (written : s.WrittenAs line) (new : ∀ u ∈ before, ¬ u.Same s)
      (stored : t ∈ before) (taken : s.first ∈ t.ends) :
      Refused before line (.collision (.endPointTaken s.first))
  | secondTaken {s t : Section} (written : s.WrittenAs line) (new : ∀ u ∈ before, ¬ u.Same s)
      (free : ∀ u ∈ before, s.first ∉ u.ends) (stored : t ∈ before) (taken : s.second ∈ t.ends) :
      Refused before line (.collision (.endPointTaken s.second))

namespace Section

theorem build_eq_ok_iff {length : Int} {first second : EndPoint} {s : Section} :
    build length first second = .ok s ↔
      s.length = length ∧ s.first = first ∧ s.second = second := by
  constructor
  · intro built
    unfold build at built
    split at built
    next positive =>
      split at built <;> cases built
      exact ⟨Int.toNat_of_nonneg (Int.le_of_lt positive), rfl, rfl⟩
    · cases built
  · rintro ⟨rfl, rfl, rfl⟩
    exact s.build_eq_ok

theorem ofItems_eq_ok_iff {length : Int} {items : List String} {s : Section} :
    ofItems length items = .ok s ↔ s.length = length ∧
      items = [s.first.junction, s.first.branch.text, s.second.junction, s.second.branch.text] := by
  constructor
  · intro read
    unfold ofItems at read
    split at read
    next junction₁ branch₁ junction₂ branch₂ =>
      split at read
      · cases read
      · cases read
      next first second first_read second_read =>
        rw [Outcome.mapError_eq_ok_iff, build_eq_ok_iff] at read
        rw [Branch.ofText?_eq_some_iff] at first_read second_read
        obtain ⟨length_eq, first_eq, second_eq⟩ := read
        exact ⟨length_eq, by rw [first_eq, second_eq, ← first_read, ← second_read]⟩
    · cases read
  · rintro ⟨rfl, rfl⟩
    simp only [ofItems, Branch.ofText?_text, Outcome.mapError_eq_ok_iff]
    exact s.build_eq_ok

/-- A line that starts with a numeral is read by its other words if the numeral is not too long, and
any other line is refused. -/
theorem ofLine_cases (line : String) (number : Option Int) :
    ((∀ numeral ∈ (Text.words line).head?, ∀ value, ¬ Text.IsNumeral numeral.toList value) ∧
        ofLine number line = .error (.format ⟨number, .length⟩)) ∨
      (∃ numeral items value, Text.words line = numeral :: items ∧
        Text.IsNumeral numeral.toList value ∧ (∀ digits, ¬ Overlong line digits) ∧
        ofLine number line =
          (ofItems value items).mapError fun reason => .format ⟨number, reason⟩) ∨
      ∃ digits, Overlong line digits ∧
        ofLine number line = .error (.numeral (.tooManyDigits digits)) := by
  unfold ofLine Overlong
  cases cut : Text.words line with
  | nil => exact .inl ⟨by simp, rfl⟩
  | cons numeral items =>
    simp only [List.head?_cons, Option.mem_some_iff]
    cases read : Text.strictNumeral? numeral.toList with
    | none =>
      refine .inl ⟨?_, by simp only⟩
      rintro _ rfl value isNumeral
      obtain ⟨negative, digits, found, -⟩ := Text.isNumeral_iff.mp isNumeral
      simp [read] at found
    | some parts =>
      obtain ⟨negative, digits⟩ := parts
      have isNumeral : Text.IsNumeral numeral.toList (Text.signed negative digits) :=
        Text.isNumeral_iff.mpr ⟨negative, digits, read, rfl⟩
      -- The digits are those of the word.
      have count := Text.length_digits read
      right
      by_cases many : Text.digitLimit < digits.length
      · right
        refine ⟨digits.length, ⟨numeral, rfl, _, isNumeral, count.symm, many⟩, ?_⟩
        simp only [Text.strictValue, if_pos many]
      · left
        refine ⟨numeral, items, _, rfl, isNumeral, ?_, ?_⟩
        · rintro _ ⟨_, rfl, _, -, rfl, also_many⟩
          exact many (count ▸ also_many)
        · simp only [Text.strictValue, if_neg many]

theorem writtenAs_of_ofLine {line : String} {number : Option Int} {s : Section}
    (read : ofLine number line = .ok s) : s.WrittenAs line := by
  rcases ofLine_cases line number with
    ⟨-, refused⟩ | ⟨numeral, items, value, cut, isNumeral, -, items_read⟩ | ⟨digits, -, failed⟩
  · cases refused.symm.trans read
  · rw [items_read, Outcome.mapError_eq_ok_iff, ofItems_eq_ok_iff] at read
    obtain ⟨rfl, rfl⟩ := read
    exact ⟨numeral, isNumeral, cut⟩
  · cases failed.symm.trans read

/-- The items behind a numeral are refused for the first thing that is wrong with them. -/
theorem refused_of_ofItems {line numeral : String} {items : List String} {value : Int}
    (cut : Text.words line = numeral :: items) (isNumeral : Text.IsNumeral numeral.toList value)
    {reason : FormatReason} (failed : ofItems value items = .error reason)
    (before : List Section) : Refused before line reason := by
  unfold ofItems at failed
  split at failed
  next junction₁ branch₁ junction₂ branch₂ =>
    split at failed
    next unknown =>
      cases failed
      exact .firstBranch cut isNumeral (Branch.ofText?_eq_none_iff.mp unknown)
    next unknown first_known =>
      cases failed
      obtain ⟨first, first_read⟩ := Option.ne_none_iff_exists'.mp first_known
      obtain rfl := Branch.ofText?_eq_some_iff.mp first_read
      exact .secondBranch cut isNumeral (Branch.ofText?_eq_none_iff.mp unknown)
    next first second first_read second_read =>
      obtain rfl := Branch.ofText?_eq_some_iff.mp first_read
      obtain rfl := Branch.ofText?_eq_some_iff.mp second_read
      unfold build at failed
      split at failed
      next positive =>
        split at failed
        next => cases failed
        next equal =>
          obtain ⟨rfl, rfl⟩ := EndPoint.mk.inj (not_not.mp equal)
          cases failed
          exact .equalEndPoints cut isNumeral positive
      next low =>
        cases failed
        exact .lengthNotPositive cut isNumeral (Int.not_lt.mp low)
  next other =>
    cases failed
    refine .itemCount cut isNumeral fun count => ?_
    obtain ⟨a, b, c, d, rfl⟩ := List.length_eq_four.mp count
    exact other a b c d rfl

/-- A line that is not read starts with too long a numeral, or is refused for its form. -/
theorem overlong_or_refused_of_ofLine {line : String} {number : Option Int} {error : DefinitionError}
    (failed : ofLine number line = .error error) (before : List Section) :
    (∃ digits, Overlong line digits ∧ error = .numeral (.tooManyDigits digits)) ∨
      ∃ reason, Refused before line reason ∧ error = .format ⟨number, reason⟩ := by
  rcases ofLine_cases line number with
    ⟨absent, refused⟩ | ⟨numeral, items, value, cut, isNumeral, -, read⟩ | ⟨digits, overlong, refused⟩
  · rw [refused] at failed
    cases failed
    exact .inr ⟨.length, .length absent, rfl⟩
  · rw [read] at failed
    cases outcome : ofItems value items with
    | ok s => simp [outcome, Except.mapError] at failed
    | error reason =>
      simp only [outcome, Except.mapError, Except.error.injEq] at failed
      exact .inr ⟨reason, refused_of_ofItems cut isNumeral outcome before, failed.symm⟩
  · rw [refused] at failed
    cases failed
    exact .inl ⟨digits, overlong, rfl⟩

theorem ofLine_of_overlong {line : String} {digits : Nat} (overlong : Overlong line digits)
    (number : Option Int) : ofLine number line = .error (.numeral (.tooManyDigits digits)) := by
  rcases ofLine_cases line number with ⟨absent, -⟩ | ⟨_, _, _, -, -, readable, -⟩ | ⟨other, also, read⟩
  · obtain ⟨numeral, first, value, isNumeral, -⟩ := overlong
    exact absurd isNumeral (absent numeral first value)
  · exact absurd overlong (readable digits)
  · obtain ⟨numeral, first, _, -, rfl, -⟩ := overlong
    obtain ⟨_, also_first, _, -, rfl, -⟩ := also
    rw [read, Option.some.inj (first.symm.trans also_first)]

theorem WrittenAs.unique {s t : Section} {line : String} (s_written : s.WrittenAs line)
    (t_written : t.WrittenAs line) : s = t := by
  obtain ⟨numeral, isNumeral, cut⟩ := s_written
  obtain ⟨_, also, same⟩ := t_written
  rw [cut] at same
  simp only [List.cons.injEq, and_true] at same
  obtain ⟨rfl, first_junction, first_branch, second_junction, second_branch⟩ := same
  have lengths : (s.length : Int) = t.length := isNumeral.value_unique also
  have first : s.first = t.first :=
    EndPoint.ext first_junction (Branch.text_injective first_branch)
  have second : s.second = t.second :=
    EndPoint.ext second_junction (Branch.text_injective second_branch)
  have built := s.build_eq_ok
  rw [lengths, first, second, t.build_eq_ok] at built
  exact (Except.ok.inj built).symm

end Section

/-- A refused line writes no section that goes with those before it. -/
theorem Refused.not_apart {before : List Section} {line : String} {reason : FormatReason}
    (refused : Refused before line reason) {s : Section} (written : s.WrittenAs line) :
    ∃ t ∈ before, ¬ t.Apart s := by
  have written_here := written
  obtain ⟨numeral, isNumeral, words⟩ := written
  cases refused with
  | length absent => exact absurd isNumeral (absent numeral (by simp [words]) _)
  | itemCount cut _ count =>
    obtain ⟨-, rfl⟩ := List.cons.inj (words.symm.trans cut)
    simp at count
  | firstBranch cut _ unknown =>
    have same := words.symm.trans cut
    simp only [List.cons.injEq] at same
    exact absurd same.2.2.1 (unknown s.first.branch)
  | secondBranch cut _ unknown =>
    have same := words.symm.trans cut
    simp only [List.cons.injEq] at same
    exact absurd same.2.2.2.2.1 (unknown s.second.branch)
  | lengthNotPositive cut also low =>
    obtain ⟨rfl, -⟩ := List.cons.inj (words.symm.trans cut)
    have length_eq := isNumeral.value_unique also
    have positive := s.length_pos
    omega
  | equalEndPoints cut _ _ =>
    have same := words.symm.trans cut
    simp only [List.cons.injEq, and_true] at same
    obtain ⟨-, rfl, first_branch, second_junction, second_branch⟩ := same
    have ends : s.first = s.second := EndPoint.ext second_junction.symm
      (Branch.text_injective (first_branch.trans second_branch.symm))
    exact absurd ends s.first_ne_second
  | duplicate also stored same =>
    obtain rfl := written_here.unique also
    exact ⟨_, stored, fun apart => apart.not_same same⟩
  | firstTaken also _ stored taken =>
    obtain rfl := written_here.unique also
    exact ⟨_, stored, fun apart => apart _ taken (by simp)⟩
  | secondTaken also _ _ stored taken =>
    obtain rfl := written_here.unique also
    exact ⟨_, stored, fun apart => apart _ taken (by simp)⟩

namespace Track

theorem taken_iff {sections : List Section} {e : EndPoint} :
    Scan.taken sections e = true ↔ ∃ t ∈ sections, e ∈ t.ends := by
  simp only [Scan.taken, List.any_eq_true, decide_eq_true_eq]

/-- A section that cannot be added is stored, or has an end-point that is taken. -/
theorem refused_of_addWritten {track : Track} {s : Section} {line : String}
    (written : s.WrittenAs line) {reason : FormatReason}
    (failed : track.addWritten s = .error reason) : Refused track.sections line reason := by
  unfold addWritten at failed
  split at failed
  next contained =>
    cases failed
    obtain ⟨t, stored, same⟩ := (track.contains_iff s).mp contained
    exact .duplicate written stored same
  next absent =>
    have new : ∀ u ∈ track.sections, ¬ u.Same s := fun u stored same =>
      absent ((track.contains_iff s).mpr ⟨u, stored, same⟩)
    have scanned := track.add_eq_scan s
    cases added : track.add s with
    | ok next => simp [added, Except.mapError] at failed
    | error error =>
      simp only [added, Except.mapError, Except.error.injEq] at failed
      subst failed
      rw [added, Scan.add, any_same, if_neg absent] at scanned
      -- The search through the two ends stops at the first that is taken.
      by_cases first_taken : Scan.taken track.sections s.first = true
      · simp only [Section.ends, List.find?_cons, first_taken, Except.map, Except.error.injEq]
          at scanned
        subst scanned
        obtain ⟨t, stored, taken⟩ := taken_iff.mp first_taken
        exact .firstTaken written new stored taken
      · by_cases second_taken : Scan.taken track.sections s.second = true
        · simp only [Section.ends, List.find?_cons, first_taken, second_taken, Except.map,
            Except.error.injEq] at scanned
          subst scanned
          obtain ⟨t, stored, taken⟩ := taken_iff.mp second_taken
          refine .secondTaken written new (fun u there on_u => ?_) stored taken
          exact first_taken (taken_iff.mpr ⟨u, there, on_u⟩)
        · simp [Section.ends, first_taken, second_taken, Except.map] at scanned

/-- Reading goes on as long as lines write sections. It stops at the first line that starts with too
long a numeral, or is refused. -/
theorem readLines_cases (lines : List String) (track : Track) (number : Nat) :
    (∃ read added, readLines track number lines = .ok read ∧
        read.sections = track.sections ++ added ∧
        List.Forall₂ (fun line s => s.WrittenAs line) lines added) ∨
      ∃ before line after added, ∃ reached : Track, lines = before ++ line :: after ∧
        readLines track number before = .ok reached ∧ reached.sections = track.sections ++ added ∧
        List.Forall₂ (fun line s => s.WrittenAs line) before added ∧
        ((∃ digits, Overlong line digits ∧
            readLines track number lines = .error (.numeral (.tooManyDigits digits))) ∨
          ∃ reason, Refused reached.sections line reason ∧
            readLines track number lines =
              .error (.format ⟨some (number + before.length : Nat), reason⟩)) := by
  -- The track is the invariant: it has the sections of the lines before, in their order.
  induction lines generalizing track number with
  | nil => exact .inl ⟨track, [], rfl, by simp, .nil⟩
  | cons line lines ih =>
    cases read : Section.ofLine (some number) line with
    | error error =>
      refine .inr ⟨[], line, lines, [], track, rfl, rfl, by simp, .nil, ?_⟩
      rcases Section.overlong_or_refused_of_ofLine read track.sections with
        ⟨digits, overlong, rfl⟩ | ⟨reason, refused, rfl⟩
      · exact .inl ⟨digits, overlong, by simp [readLines, read]⟩
      · exact .inr ⟨reason, refused, by simp [readLines, read]⟩
    | ok s =>
      have written := Section.writtenAs_of_ofLine read
      cases stored : track.addWritten s with
      | error reason =>
        refine .inr ⟨[], line, lines, [], track, rfl, rfl, by simp, .nil, .inr ⟨reason, ?_, ?_⟩⟩
        · exact refused_of_addWritten written stored
        · simp [readLines, read, stored]
      | ok next =>
        have step (others : List String) :
            readLines track number (line :: others) = readLines next (number + 1) others := by
          simp only [readLines, read, stored]
        have moved (added : List Section) :
            next.sections ++ added = track.sections ++ s :: added := by
          simp [sections_of_addWritten stored]
        rw [step]
        rcases ih next (number + 1) with ⟨last, added, last_read, sections_eq, others⟩ |
          ⟨before, stopped, after, added, reached, rfl, before_read, sections_eq, others, failed⟩
        · exact .inl ⟨last, s :: added, last_read, sections_eq.trans (moved added),
            .cons written others⟩
        · refine .inr ⟨line :: before, stopped, after, s :: added, reached, rfl,
            (step before).trans before_read, sections_eq.trans (moved added), .cons written others, ?_⟩
          rwa [List.length_cons, Nat.add_comm before.length, ← Nat.add_assoc]

/-- With numerals that are short enough, reading only stops at a line that is refused. -/
theorem readLines_or_refused {lines : List String} (few : ∀ line ∈ lines, FewDigits line)
    (track : Track) (number : Nat) :
    (∃ read added, readLines track number lines = .ok read ∧
        read.sections = track.sections ++ added ∧
        List.Forall₂ (fun line s => s.WrittenAs line) lines added) ∨
      ∃ before line after added reason, ∃ reached : Track, lines = before ++ line :: after ∧
        reached.sections = track.sections ++ added ∧
        List.Forall₂ (fun line s => s.WrittenAs line) before added ∧
        Refused reached.sections line reason ∧
        readLines track number lines =
          .error (.format ⟨some (number + before.length : Nat), reason⟩) := by
  rcases readLines_cases lines track number with read | ⟨before, line, after, added, reached, cut, -,
    sections_eq, written, ⟨digits, overlong, -⟩ | ⟨reason, refused, failed⟩⟩
  · exact .inl read
  · have line_few := few line (by simp [cut])
    exact absurd overlong (line_few.not_overlong digits)
  · exact .inr ⟨before, line, after, added, reason, reached, cut, sections_eq, written, refused,
      failed⟩

end Track

theorem ends_nodup_iff {sections : List Section} :
    (sections.flatMap Section.ends).Nodup ↔ sections.Pairwise Section.Apart := by
  rw [List.nodup_flatMap]
  constructor
  · rintro ⟨-, disjoint⟩
    exact disjoint.imp fun apart e on_s on_t => apart on_s on_t
  · intro apart
    refine ⟨fun s _ => by simp [Section.ends, s.first_ne_second], ?_⟩
    exact apart.imp fun apart e on_s on_t => apart e on_s on_t

theorem sections_unique {lines : List String} {sections others : List Section}
    (written : List.Forall₂ (fun line s => s.WrittenAs line) lines sections)
    (also : List.Forall₂ (fun line s => s.WrittenAs line) lines others) : sections = others := by
  induction written generalizing others with
  | nil =>
    cases also
    rfl
  | cons first _ ih =>
    cases also with
    | cons first_also rest_also => rw [first.unique first_also, ih rest_also]

theorem Define.take {lines : List String} {sections : List Section}
    (define : Define lines sections) (k : Nat) : Define (lines.take k) (sections.take k) where
  written := List.forall₂_take k define.written
  ends_nodup := ends_nodup_iff.mpr ((ends_nodup_iff.mp define.ends_nodup).take)

/-- Lines with one among them that is refused behind those before it define nothing. -/
theorem Refused.not_define {before : List String} {line : String} {added : List Section}
    {reason : FormatReason} (refused : Refused added line reason)
    (written : List.Forall₂ (fun line s => s.WrittenAs line) before added)
    (after : List String) (sections : List Section) : ¬ Define (before ++ line :: after) sections := by
  rintro ⟨all_written, ends_nodup⟩
  have leading := List.forall₂_take before.length all_written
  have following := List.forall₂_drop before.length all_written
  rw [List.take_left] at leading
  rw [List.drop_left] at following
  obtain ⟨s, later, s_written, -, following_eq⟩ := List.forall₂_cons_left_iff.mp following
  have sections_eq : sections = added ++ s :: later := by
    rw [← List.take_append_drop before.length sections, following_eq,
      sections_unique leading written]
  obtain ⟨t, stored, meets⟩ := refused.not_apart s_written
  have apart := ends_nodup_iff.mp ends_nodup
  rw [sections_eq] at apart
  exact meets ((List.pairwise_append.mp apart).2.2 t stored s List.mem_cons_self)

namespace Track

/-- A definition is read as the sections that its lines write, and just when these have no end-point
in common. Otherwise it is refused at the end of the shortest leading part that defines no track, for
the first thing that is wrong with this line. -/
theorem ofLines_grammar {lines : List String} (few : ∀ line ∈ lines, FewDigits line) :
    (∀ sections, (∃ track, ofLines lines = .ok track ∧ track.sections = sections) ↔
      Define lines sections) ∧
    ((∀ sections, ¬ Define lines sections) →
      ∃ before line after sections reason, lines = before ++ line :: after ∧
        ofLines lines = .error (.format ⟨some (before.length + 1 : Nat), reason⟩) ∧
        IsLeast {k | ∀ sections, ¬ Define (lines.take k) sections} (before.length + 1) ∧
          Define before sections ∧ Refused sections line reason) := by
  rcases readLines_or_refused few empty 1 with ⟨read, added, read_eq, sections_eq, written⟩ |
    ⟨before, line, after, added, reason, reached, rfl, sections_eq, written, refused, failed⟩
  · obtain rfl : read.sections = added := sections_eq
    have define : Define lines read.sections := ⟨written, ends_nodup_iff.mpr read.apart⟩
    refine ⟨fun sections => ⟨?_, fun other => ?_⟩, fun undefined => absurd define (undefined _)⟩
    · rintro ⟨track, track_read, rfl⟩
      obtain rfl : read = track := Except.ok.inj (read_eq.symm.trans track_read)
      exact define
    · exact ⟨read, read_eq, sections_unique written other.written⟩
  · obtain rfl : reached.sections = added := sections_eq
    have define : Define before reached.sections := ⟨written, ends_nodup_iff.mpr reached.apart⟩
    have failed : ofLines (before ++ line :: after) =
        .error (.format ⟨some (before.length + 1 : Nat), reason⟩) := by
      rw [ofLines, failed, Nat.add_comm]
    refine ⟨fun sections => ⟨?_, fun other => ?_⟩, fun _ => ?_⟩
    · rintro ⟨track, track_read, -⟩
      cases failed.symm.trans track_read
    · exact absurd other (refused.not_define written after sections)
    · refine ⟨before, line, after, reached.sections, reason, rfl, failed, ⟨?_, ?_⟩, define, refused⟩
      · intro sections
        rw [List.take_length_add_append]
        exact refused.not_define written [] sections
      -- Up to a line before, the lines are leading ones of those that define sections.
      · intro k undefined
        by_contra short
        have within : k ≤ before.length := by omega
        refine undefined (reached.sections.take k) ?_
        rw [List.take_append_of_le_length within]
        exact define.take k

/-- The same section again, from its other end, is refused at its own line. -/
theorem ofLines_grammar_reversed :
    let ahead := "+010\tj1 FACING  j2 NORMAL"
    let back := "10 j2 NORMAL j1 FACING"
    (∀ line ∈ [ahead, back], FewDigits line) ∧
      (∃ track, ofLines [ahead] = .ok track ∧ track.sections = [.line]) ∧
      ∃ reason, ofLines [ahead, back] = .error (.format ⟨some 2, reason⟩) ∧
        Refused [.line] back reason := by
  intro ahead back
  have few : ∀ line ∈ [ahead, back], FewDigits line := by
    rw [List.forall_mem_cons, List.forall_mem_singleton]
    exact ⟨by unfold FewDigits; decide, by unfold FewDigits; decide⟩
  have ahead_written : Section.line.WrittenAs ahead :=
    ⟨"+010", @Text.IsNumeral.plus ['0', '1', '0'] (by decide)
      (List.all_eq_true.mp (by decide : ['0', '1', '0'].all Char.isDigit = true)), by decide⟩
  have back_written : Section.lineBack.WrittenAs back :=
    ⟨"10", .plain (by decide)
      (List.all_eq_true.mp (by decide : "10".toList.all Char.isDigit = true)), by decide⟩
  have alone : Define [ahead] [.line] := ⟨.cons ahead_written .nil, by decide⟩
  have undefined : ∀ sections, ¬ Define [ahead, back] sections := by
    rintro sections ⟨written, ends_nodup⟩
    obtain rfl := sections_unique written (.cons ahead_written (.cons back_written .nil))
    exact absurd ends_nodup (by decide)
  obtain ⟨before, line, after, sections, reason, cut, failed, least, define, refused⟩ :=
    (ofLines_grammar few).2 undefined
  have read := ((ofLines_grammar fun line member =>
    few line (List.mem_singleton.mp member ▸ List.mem_cons_self)).1 [.line]).mpr alone
  have length_eq : before.length = 1 := by
    have upper := least.2 (show 2 ∈ {k | ∀ sections, ¬ Define ([ahead, back].take k) sections}
      from undefined)
    have lower : before.length ≠ 0 := fun none =>
      least.1 [.line] (by rw [none]; exact alone)
    omega
  obtain ⟨first, rfl⟩ := List.length_eq_one_iff.mp length_eq
  obtain ⟨rfl, rfl, -⟩ : ahead = first ∧ back = line ∧ [] = after := by simpa using cut
  rw [sections_unique define.written alone.written] at refused
  exact ⟨few, read, reason, failed, refused⟩

end Track

end Trackage
