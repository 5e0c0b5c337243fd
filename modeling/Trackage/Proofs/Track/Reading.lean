import Trackage.Proofs.Track.Grammar

/-!
What reading a definition comes to. It gives a track, or stops at a line and says which one and what is
wrong with it. The one failure without the number of a line is that of a numeral with more digits than
are read.
-/

namespace Trackage.Track

/-- Lines are read one behind the other. -/
theorem readLines_append (before after : List String) (track : Track) (number : Nat) :
    readLines track number (before ++ after) =
      readLines track number before >>= fun reached =>
        readLines reached (number + before.length) after := by
  induction before generalizing track number with
  | nil => rfl
  | cons line before ih =>
    simp only [List.cons_append, readLines, List.length_cons]
    cases Section.ofLine (some number) line with
    | error error => rfl
    | ok s =>
      dsimp only
      cases track.addWritten s with
      | error reason => rfl
      | ok next =>
        dsimp only
        rw [ih, Nat.add_assoc, Nat.add_comm 1]

/-- Behind lines that are read, too long a numeral stops the reading, whatever follows. -/
theorem ofLines_of_overlong {before : List String} {line : String} {read : Track} {digits : Nat}
    (before_read : ofLines before = .ok read) (overlong : Overlong line digits)
    (after : List String) :
    ofLines (before ++ line :: after) = .error (.numeral (.tooManyDigits digits)) := by
  unfold ofLines at before_read ⊢
  rw [readLines_append, before_read]
  change readLines read _ (line :: after) = _
  rw [readLines, Section.ofLine_of_overlong overlong]

/-- Whatever its lines are, a definition is read, or refused with the number of the first line that
cannot be added to those before, or stopped by too long a numeral. The last is exactly what happens to
a definition in which such a numeral comes behind lines that are read. -/
theorem ofLines_outcome (lines : List String) :
    ((∃ track, ofLines lines = .ok track) ∨
      (∃ before line after read reason, lines = before ++ line :: after ∧
        ofLines before = .ok read ∧ Refused read.sections line reason ∧
        ofLines lines = .error (.format ⟨some (before.length + 1 : Nat), reason⟩)) ∨
      ∃ digits, ofLines lines = .error (.numeral (.tooManyDigits digits))) ∧
    ∀ digits, ofLines lines = .error (.numeral (.tooManyDigits digits)) ↔
      ∃ before line after read, lines = before ++ line :: after ∧ ofLines before = .ok read ∧
        Overlong line digits := by
  have stopped (digits : Nat) : (∃ before line after read, lines = before ++ line :: after ∧
      ofLines before = .ok read ∧ Overlong line digits) →
        ofLines lines = .error (.numeral (.tooManyDigits digits)) := by
    rintro ⟨before, line, after, read, rfl, before_read, overlong⟩
    exact ofLines_of_overlong before_read overlong after
  -- The three ways in which reading can end exclude each other.
  rcases readLines_cases lines empty 1 with ⟨track, -, read, -⟩ | ⟨before, line, after, -, reached,
    cut, before_read, -, -, ⟨digits, overlong, failed⟩ | ⟨reason, refused, failed⟩⟩
  · refine ⟨.inl ⟨track, read⟩, fun digits => ⟨fun failed => ?_, stopped digits⟩⟩
    cases read.symm.trans failed
  · refine ⟨.inr (.inr ⟨digits, failed⟩), fun other => ⟨fun also => ?_, stopped other⟩⟩
    cases failed.symm.trans also
    exact ⟨before, line, after, reached, cut, before_read, overlong⟩
  · rw [Nat.add_comm] at failed
    refine ⟨.inr (.inl ⟨before, line, after, reached, reason, cut, before_read, refused, failed⟩),
      fun digits => ⟨fun also => ?_, stopped digits⟩⟩
    cases failed.symm.trans also

/-- A line of a section whose length is written with one digit more than are read. -/
def overlongLine : String :=
  String.ofList (List.replicate (Text.digitLimit + 1) '1' ++ " j1 FACING j2 NORMAL".toList)

theorem overlong_overlongLine : Overlong overlongLine (Text.digitLimit + 1) := by
  have digits : ∀ c ∈ List.replicate (Text.digitLimit + 1) '1', c.isDigit = true := by
    intro c member
    rw [List.eq_of_mem_replicate member]
    decide
  have nonempty : List.replicate (Text.digitLimit + 1) '1' ≠ [] := by simp
  have isNumeral := Text.IsNumeral.plain nonempty digits
  have words : Text.words overlongLine = String.ofList (List.replicate (Text.digitLimit + 1) '1') ::
      (Text.wordsOf "j1 FACING j2 NORMAL".toList).map String.ofList := by
    rw [Text.words, overlongLine, String.toList_ofList]
    change (Text.wordsOf (_ ++ ' ' :: "j1 FACING j2 NORMAL".toList)).map String.ofList = _
    rw [Text.wordsOf_append_blank isNumeral.isWord (by decide), List.map_cons]
  refine ⟨_, by rw [words]; rfl, _, by rw [String.toList_ofList]; exact isNumeral, ?_, Nat.lt_succ_self _⟩
  rw [String.toList_ofList, List.countP_eq_length.mpr digits, List.length_replicate]

/-- A line that only fails for the length of its numeral is refused without its number. -/
theorem not_format_of_overlongLine :
    ofLines [overlongLine] = .error (.numeral (.tooManyDigits 4301)) ∧
      ¬ ((∃ track, ofLines [overlongLine] = .ok track) ∨
        ∃ number reason, ofLines [overlongLine] = .error (.format ⟨some number, reason⟩)) := by
  have failed : ofLines ([] ++ [overlongLine]) = .error (.numeral (.tooManyDigits 4301)) :=
    ofLines_of_overlong rfl overlong_overlongLine []
  refine ⟨failed, ?_⟩
  rintro (⟨track, read⟩ | ⟨number, reason, refused⟩)
  · cases failed.symm.trans read
  · cases failed.symm.trans refused

end Trackage.Track
