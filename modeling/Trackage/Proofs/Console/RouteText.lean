import Trackage.Console.Session
import Trackage.Proofs.Payload.Shown
import Trackage.Proofs.Text.Layout

/-!
Route texts. However the segments of a route are laid out on lines, one request is read from each line
that has words, and the track gives back the segment that was written there.
-/

namespace Trackage

namespace Text

/-- The code points of the blanks. -/
def blankPoints : List Nat :=
  List.range' 9 5 ++ List.range' 28 5 ++ List.range' 0x2000 11 ++
    [0x85, 0xa0, 0x1680, 0x2028, 0x2029, 0x202f, 0x205f, 0x3000]

theorem toNat_mem_blankPoints {c : Char} (separates : isBlank c = true) :
    c.toNat ∈ blankPoints := by
  simp only [isBlank, Bool.or_eq_true, Bool.and_eq_true, decide_eq_true_eq, beq_iff_eq] at separates
  simp only [blankPoints, List.mem_append, List.mem_range'_1, List.mem_cons, List.not_mem_nil,
    or_false]
  omega

/-- No blank is in the tables of upper case. -/
theorem upperChars_of_isBlank {c : Char} (separates : isBlank c = true) : upperChars c = [c] := by
  have kept : ∀ n ∈ blankPoints, upperChars (Char.ofNat n) = [Char.ofNat n] := by decide +kernel
  have kept_here := kept c.toNat (toNat_mem_blankPoints separates)
  rwa [Char.ofNat_toNat] at kept_here

/-- What is a word in upper case is a word as it is written. -/
theorem isWord_of_upper {text : String} (upper_word : IsWord (upper text).toList) :
    IsWord text.toList := by
  simp only [upper, String.toList_ofList] at upper_word
  constructor
  · intro absent
    exact upper_word.1 (by rw [absent]; rfl)
  · -- A blank among the letters would stand in upper case as well.
    intro c member
    rw [← Bool.not_eq_true]
    intro separates
    have kept : c ∈ text.toList.flatMap upperChars :=
      List.mem_flatMap.mpr ⟨c, member, by simp [upperChars_of_isBlank separates]⟩
    exact absurd separates (by simp [upper_word.2 c kept])

theorem words_lines (text : String) : (lines text).map words =
    ((linesOf text.toList).map wordsOf).map (·.map String.ofList) := by
  simp [lines, words, Function.comp_def]

end Text

namespace RouteText

/-- The words on a line are those of a request: the branch stands there in letters of any case, and
the offsets as numerals. -/
def Names (row : List String) (named : SegmentRequest) : Prop :=
  ∃ branch start stop, row = [named.junction, branch, start, stop] ∧
    Text.upper branch = named.branch ∧ Text.readNumeral start = .ok named.start ∧
      Text.readNumeral stop = .ok named.stop

variable {number : Nat} {requests : List SegmentRequest}

theorem segmentOf_eq_ok_iff {row : List String} {named : SegmentRequest} :
    segmentOf number row = .ok named ↔ Names row named := by
  constructor
  · intro read
    unfold segmentOf at read
    split at read
    next junction branch start stop =>
      obtain ⟨from_value, start_read, read⟩ := Outcome.bind_eq_ok_iff.mp read
      obtain ⟨to_value, stop_read, read⟩ := Outcome.bind_eq_ok_iff.mp read
      cases read
      exact ⟨branch, start, stop, rfl, rfl, Outcome.mapError_eq_ok_iff.mp start_read,
        Outcome.mapError_eq_ok_iff.mp stop_read⟩
    · cases read
  · rintro ⟨branch, start, stop, rfl, upper, start_read, stop_read⟩
    simp only [segmentOf, start_read, stop_read, upper, Except.mapError, bind, Except.bind, pure,
      Except.pure]

/-- Lines without words only count for the numbers of the others. -/
theorem ofLines_eq_ok_iff {lines : List String} : ofLines number lines = .ok requests ↔
    List.Forall₂ Names ((lines.map Text.words).filter (· ≠ [])) requests := by
  induction lines generalizing number requests with
  | nil => cases requests <;> simp [ofLines]
  | cons line lines ih =>
    cases cut : Text.words line with
    | nil => simp [ofLines, cut, ih]
    | cons word others =>
      -- The first request is that of the first row, the others are those of the lines behind it.
      simp only [ofLines, cut, Outcome.bind_eq_ok_iff, segmentOf_eq_ok_iff, ih, List.map_cons]
      rw [List.filter_cons_of_pos (by simp), List.forall₂_cons_left_iff]
      constructor
      · rintro ⟨named, first, rest, later, made⟩
        cases made
        exact ⟨named, rest, first, later, rfl⟩
      · rintro ⟨named, rest, first, later, rfl⟩
        exact ⟨named, first, rest, later, rfl⟩

/-- What is read from a text are the requests that its rows of words name, one each and in order. -/
theorem read_eq_ok_iff {text : String} : read text = .ok requests ↔
    List.Forall₂ (fun row named => Names (row.map String.ofList) named)
      (Text.rowsOf text.toList) requests := by
  have rows_eq : ((Text.lines text).map Text.words).filter (· ≠ []) =
      (Text.rowsOf text.toList).map (·.map String.ofList) := by
    rw [Text.words_lines, Text.rowsOf, List.filter_map]
    congr 2
    funext row
    simp
  rw [read, ofLines_eq_ok_iff, rows_eq, List.forall₂_map_left_iff]

end RouteText

namespace Segment

/-- The words for a segment on a line of a route text: its junction, its branch in letters of any case,
and numerals for its offsets that have no more digits than are read. -/
def WordedAs (s : Segment) (row : List (List Char)) : Prop :=
  ∃ branch start stop, row = [s.departing.junction.toList, branch, start, stop] ∧
    Text.upper (String.ofList branch) = s.departing.branch.text ∧
    Text.IsNumeral start s.start ∧ start.countP Char.isDigit ≤ Text.digitLimit ∧
    Text.IsNumeral stop s.stop ∧ stop.countP Char.isDigit ≤ Text.digitLimit

variable {s : Segment} {row : List (List Char)}

theorem WordedAs.are_words (worded : s.WordedAs row)
    (junction : Text.IsWord s.departing.junction.toList) : ∀ word ∈ row, Text.IsWord word := by
  obtain ⟨branch, start, stop, rfl, upper, start_numeral, -, stop_numeral, -⟩ := worded
  have upper_word : Text.IsWord (Text.upper (String.ofList branch)).toList :=
    upper ▸ s.departing.branch.isWord_text
  have branch_word := Text.isWord_of_upper upper_word
  rw [String.toList_ofList] at branch_word
  simp only [List.forall_mem_cons]
  exact ⟨junction, branch_word, start_numeral.isWord, stop_numeral.isWord, by simp⟩

theorem WordedAs.names (worded : s.WordedAs row) :
    RouteText.Names (row.map String.ofList) s.request := by
  obtain ⟨branch, start, stop, rfl, upper, start_numeral, start_few, stop_numeral, stop_few⟩ := worded
  refine ⟨String.ofList branch, String.ofList start, String.ofList stop, ?_, upper, ?_, ?_⟩
  · simp [request]
  · exact Text.readNumeral_of_isNumeral start_numeral start_few
  · exact Text.readNumeral_of_isNumeral stop_numeral stop_few

end Segment

namespace RouteText

variable {track : Track} {segments : List Segment} {rows : List (List (List Char))} {text : String}

theorem exists_mapM_request (on_track : ∀ s ∈ segments, s.onTrack track = true) :
    ∃ resolved, (segments.map Segment.request).mapM
        (fun named => Segment.ofJson track named.toJson) = .ok resolved ∧
      List.Forall₂ Segment.Same resolved segments := by
  rw [List.mapM_map]
  apply Outcome.exists_mapM_eq_ok
  intro s member
  exact Segment.exists_ofJson_of_standsIn s.request.standsIn_toJson (on_track s member)

/-- A route text with a segment of the track on each of its lines that is not blank is read as one
request a line, in order, and the track resolves these to the segments that were written. -/
theorem layout_roundTrip (on_track : ∀ s ∈ segments, s.onTrack track = true)
    (junctions : ∀ s ∈ segments, Text.IsWord s.departing.junction.toList)
    (worded : List.Forall₂ (fun row s => s.WordedAs row) rows segments)
    (laid_out : Text.LaidOut rows text.toList) :
    read text = .ok (segments.map Segment.request) ∧
      ∃ resolved, (segments.map Segment.request).mapM
          (fun named => Segment.ofJson track named.toJson) = .ok resolved ∧
        List.Forall₂ Segment.Same resolved segments := by
  have are_words : ∀ row ∈ rows, ∀ word ∈ row, Text.IsWord word := by
    intro row member
    obtain ⟨s, on_route, row_worded⟩ := Outcome.exists_of_mem_right worded.flip member
    exact Segment.WordedAs.are_words row_worded (junctions s on_route)
  refine ⟨read_eq_ok_iff.mpr ?_, exists_mapM_request on_track⟩
  -- The rows are found again in the text, so that each names what it was written for.
  rw [laid_out.rowsOf_eq are_words, List.forall₂_map_right_iff]
  exact worded.imp fun row s => Segment.WordedAs.names

/-- Blank lines, branches in mixed case, a sign, leading zeros, wide spaces and three ways to end a
line. -/
theorem layout_roundTrip_mixed :
    let segments := [Segment.ahead 2 5, Segment.back 0 10]
    let text := "\u3000\r\n\u2028j1\tfAcIng  +2 005\r\rj2 normal\u00a0 0 10 \x0b"
    (∀ s ∈ segments, s.onTrack (.single .line) = true) ∧
      (∀ s ∈ segments, Text.IsWord s.departing.junction.toList) ∧
      read text = .ok (segments.map Segment.request) ∧
      ∃ resolved, (segments.map Segment.request).mapM
          (fun named => Segment.ofJson (.single .line) named.toJson) = .ok resolved ∧
        List.Forall₂ Segment.Same resolved segments := by
  intro segments text
  have on_track : ∀ s ∈ segments, s.onTrack (.single .line) = true := by simp [segments]
  have junctions : ∀ s ∈ segments, Text.IsWord s.departing.junction.toList := by
    simp only [segments, List.forall_mem_cons]
    exact ⟨by decide, by decide, by simp⟩
  let first := ["j1".toList, "fAcIng".toList, "+2".toList, "005".toList]
  let second := ["j2".toList, "normal".toList, "0".toList, "10".toList]
  have first_worded : (Segment.ahead 2 5).WordedAs first :=
    ⟨_, _, _, rfl, by decide, Text.isNumeral_iff.mpr ⟨_, _, rfl, rfl⟩, by decide,
      Text.isNumeral_iff.mpr ⟨_, _, rfl, rfl⟩, by decide⟩
  have second_worded : (Segment.back 0 10).WordedAs second :=
    ⟨_, _, _, rfl, by decide, Text.isNumeral_iff.mpr ⟨_, _, rfl, rfl⟩, by decide,
      Text.isNumeral_iff.mpr ⟨_, _, rfl, rfl⟩, by decide⟩
  let first_line := "j1".toList ++ (['\t'] ++ ("fAcIng".toList ++ ([' ', ' '] ++ ("+2".toList ++
    ([' '] ++ ("005".toList ++ []))))))
  let second_line := "j2".toList ++ ([' '] ++ ("normal".toList ++ (['\u00a0', ' '] ++ ("0".toList ++
    ([' '] ++ ("10".toList ++ [' ']))))))
  have first_spaced : Text.Spaced first first_line := .next (by decide) (by decide)
    (.next (by decide) (by decide) (.next (by decide) (by decide) (.last (by decide))))
  have second_spaced : Text.Spaced second second_line := .next (by decide) (by decide)
    (.next (by decide) (by decide) (.next (by decide) (by decide) (.last (by decide))))
  have laid_out : Text.LaidOut [first, second] text.toList := by
    -- Four blanks before the first line, and one more line boundary behind its own.
    have whole : text.toList = '\u3000' :: '\r' :: '\n' :: '\u2028' ::
        (first_line ++ (['\r'] ++ '\r' :: (second_line ++ (['\x0b'] ++ [])))) := by decide
    rw [whole]
    refine .blank (by decide) (.blank (by decide) (.blank (by decide) (.blank (by decide) ?_)))
    exact .next first_spaced (.alone (by decide)) (.blank (by decide)
      (.next second_spaced (.alone (by decide)) .nil))
  obtain ⟨read_eq, resolved⟩ := layout_roundTrip on_track junctions
    (.cons first_worded (.cons second_worded .nil)) laid_out
  exact ⟨on_track, junctions, read_eq, resolved⟩

end RouteText

end Trackage
