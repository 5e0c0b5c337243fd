import Trackage.Text.Octets
import Trackage.Track.Definition
import Trackage.Proofs.Outcome
import Trackage.Proofs.Text.Encoding
import Trackage.Proofs.Text.Numeral
import Trackage.Proofs.Text.Words
import Trackage.Proofs.Track.Scan

/-!
Tracks that are written and read again. What a track with fit names writes is read as the same
sections in the same order, from a text as from a file; and whatever text is read, the track read
from it writes a text that is read as this track.
-/

namespace Trackage

theorem Branch.ofText?_text (branch : Branch) : Branch.ofText? branch.text = some branch := by
  cases branch <;> decide

theorem Branch.isWord_text (branch : Branch) : Text.IsWord branch.text.toList := by
  cases branch <;> decide

theorem Branch.encodable_text (branch : Branch) : Text.Encodable branch.text.toList := by
  refine Text.encodable_of_not_mem ?_
  cases branch <;> decide

namespace Section

/-- A section whose line can be read again: the names of its junctions are words, and its length has
no more digits than are read. -/
structure Writable (s : Section) : Prop where
  names : ∀ e ∈ s.ends, Text.IsWord e.junction.toList
  digits : (Nat.toDigits 10 s.length).length ≤ Text.digitLimit

theorem Writable.isWritable {s : Section} (writable : s.Writable) :
    Text.isWritable s.length = true := Text.isWritable_iff.mpr writable.digits

/-- The words of the line of a section. -/
def lineWords (s : Section) : List (List Char) :=
  [Nat.toDigits 10 s.length, s.first.junction.toList, s.first.branch.text.toList,
    s.second.junction.toList, s.second.branch.text.toList]

theorem text_toList (s : Section) : s.text.toList = [' '].intercalate s.lineWords := by
  simp [lineWords, text, EndPoint.text, List.intercalate_cons_cons]

theorem Writable.isWord_lineWords {s : Section} (writable : s.Writable) :
    ∀ word ∈ s.lineWords, Text.IsWord word := by
  have first := writable.names s.first (by simp)
  have second := writable.names s.second (by simp)
  simp only [lineWords, List.forall_mem_cons]
  exact ⟨Text.isWord_toDigits _, first, s.first.branch.isWord_text, second,
    s.second.branch.isWord_text, by simp⟩

theorem text_toList_ne_nil (s : Section) : s.text.toList ≠ [] := by
  rw [text_toList, lineWords, List.intercalate_cons_cons]
  simp

/-- No line boundary hides in the line of a section. -/
theorem Writable.unbroken {s : Section} (writable : s.Writable) :
    ∀ c ∈ s.text.toList, Text.isLineBreak c = false := by
  rw [text_toList]
  exact Text.forall_mem_intercalate (List.forall_mem_singleton.mpr rfl) fun word member =>
    (writable.isWord_lineWords word member).unbroken

theorem encodable_text {s : Section}
    (names : ∀ e ∈ s.ends, Text.Encodable e.junction.toList) : Text.Encodable s.text.toList := by
  have first := names s.first (by simp)
  have second := names s.second (by simp)
  have digits : Text.Encodable (Nat.toDigits 10 s.length) := by
    refine Text.encodable_of_not_mem fun member => ?_
    have digit := Nat.isDigit_of_mem_toDigits (by decide) (by decide) member
    exact absurd digit (by decide)
  rw [text_toList]
  refine .intercalate (Text.encodable_of_not_mem (by decide)) ?_
  simp only [lineWords, List.forall_mem_cons]
  exact ⟨digits, first, s.first.branch.encodable_text, second, s.second.branch.encodable_text,
    by simp⟩

theorem build_eq_ok (s : Section) : build s.length s.first s.second = .ok s := by
  unfold build
  rw [dif_pos (Int.natCast_pos.mpr s.length_pos), dif_pos s.first_ne_second]
  rfl

theorem Writable.words_text {s : Section} (writable : s.Writable) :
    Text.words s.text = s.lineWords.map String.ofList := by
  rw [Text.words, text_toList, Text.wordsOf_intercalate writable.isWord_lineWords]

/-- The line of a section is read as the section. -/
theorem ofLine_text {s : Section} (writable : s.Writable) (number : Option Int) :
    ofLine number s.text = .ok s := by
  obtain ⟨digits, read, valued⟩ := Text.strictNumeral?_toDigits s.length writable.digits
  unfold ofLine
  rw [writable.words_text]
  simp only [lineWords, List.map_cons, List.map_nil, String.toList_ofList, read, valued,
    String.ofList_toList, ofItems, Branch.ofText?_text, Outcome.mapError_eq_ok_iff]
  exact s.build_eq_ok

/-- The items behind the length give the section its junctions. -/
theorem ofItems_eq_ok {length : Int} {items : List String} {s : Section}
    (read : ofItems length items = .ok s) :
    s.length = length.toNat ∧ ∀ e ∈ s.ends, e.junction ∈ items := by
  unfold ofItems at read
  split at read
  · split at read
    · cases read
    · cases read
    · rw [Outcome.mapError_eq_ok_iff] at read
      unfold build at read
      split at read
      · split at read <;> cases read
        simp
      · cases read
  · cases read

/-- What a line is read as can be written on a line. -/
theorem writable_of_ofLine {number : Option Int} {line : String} {s : Section}
    (read : ofLine number line = .ok s) : s.Writable := by
  unfold ofLine at read
  simp only at read
  split at read
  · cases read
  next first items cut =>
    have words (item : String) (member : item ∈ items) : Text.IsWord item.toList := by
      have present : item ∈ Text.words line := by simp [cut, member]
      obtain ⟨word, in_line, rfl⟩ := List.mem_map.mp present
      rw [String.toList_ofList]
      exact Text.isWord_of_mem_wordsOf in_line
    split at read
    · cases read
    next negative digits numeral =>
      split at read
      · cases read
      next length valued =>
        rw [Outcome.mapError_eq_ok_iff] at read
        obtain ⟨length_eq, junctions⟩ := ofItems_eq_ok read
        refine ⟨fun e member => words _ (junctions e member), ?_⟩
        rw [length_eq]
        exact Text.length_toDigits_le numeral valued

end Section

namespace Track

/-- A written section is added behind those that share no end-point with it. -/
theorem addWritten_of_apart {track : Track} {s : Section}
    (apart : ∀ t ∈ track.sections, t.Apart s) :
    ∃ next, track.addWritten s = .ok next ∧ next.sections = track.sections ++ [s] := by
  have absent : ¬ track.contains s = true := by
    rw [contains_iff]
    rintro ⟨t, stored, same⟩
    exact (apart t stored).not_same same
  have free : s.ends.find? (Scan.taken track.sections) = none := by
    rw [List.find?_eq_none]
    intro e on_s taken
    obtain ⟨t, stored, on_t⟩ := List.any_eq_true.mp taken
    exact apart t stored e (by simpa using on_t) on_s
  have scanned : (track.add s).map sections = .ok (track.sections ++ [s]) := by
    rw [add_eq_scan, Scan.add, any_same, if_neg absent, free]
  unfold addWritten
  rw [if_neg absent]
  cases added : track.add s with
  | error error => simp [added, Except.map] at scanned
  | ok next =>
    simp only [added, Except.map, Except.ok.injEq] at scanned
    exact ⟨next, rfl, scanned⟩

theorem sections_of_addWritten {track next : Track} {s : Section}
    (written : track.addWritten s = .ok next) : next.sections = track.sections ++ [s] := by
  unfold addWritten at written
  split at written
  · cases written
  next absent =>
    rw [Outcome.mapError_eq_ok_iff] at written
    have scanned := track.add_eq_scan s
    rw [written, Scan.add, any_same, if_neg absent] at scanned
    split at scanned
    · cases scanned
    · exact Except.ok.inj scanned

/-- The lines of sections without shared end-points are read as these sections. -/
theorem readLines_texts {track : Track} {added : List Section}
    (apart : (track.sections ++ added).Pairwise Section.Apart)
    (writable : ∀ s ∈ added, s.Writable) (number : Nat) :
    ∃ read, readLines track number (added.map Section.text) = .ok read ∧
      read.sections = track.sections ++ added := by
  induction added generalizing track number with
  | nil => exact ⟨track, rfl, by simp⟩
  | cons s added ih =>
    obtain ⟨first, others⟩ := List.forall_mem_cons.mp writable
    have new : ∀ t ∈ track.sections, t.Apart s :=
      fun t stored => (List.pairwise_append.mp apart).2.2 t stored s List.mem_cons_self
    obtain ⟨next, written, next_sections⟩ := addWritten_of_apart new
    have moved : track.sections ++ s :: added = next.sections ++ added := by simp [next_sections]
    rw [moved] at apart ⊢
    obtain ⟨read, read_eq, sections_eq⟩ := ih apart others (number + 1)
    refine ⟨read, ?_, sections_eq⟩
    simp only [List.map_cons, readLines, Section.ofLine_text first, written]
    exact read_eq

/-- Every section that is read can be written. -/
theorem writable_of_readLines {track read : Track} {number : Nat} {lines : List String}
    (writable : ∀ s ∈ track.sections, s.Writable)
    (read_eq : readLines track number lines = .ok read) : ∀ s ∈ read.sections, s.Writable := by
  induction lines generalizing track number with
  | nil =>
    cases read_eq
    exact writable
  | cons line lines ih =>
    unfold readLines at read_eq
    split at read_eq
    · cases read_eq
    next s line_read =>
      split at read_eq
      · cases read_eq
      next next written =>
        refine ih ?_ read_eq
        rw [sections_of_addWritten written]
        exact List.forall_mem_append.mpr
          ⟨writable, by simpa using Section.writable_of_ofLine line_read⟩

theorem writable_of_ofText {definition : String} {track : Track}
    (read : ofText definition = .ok track) : ∀ s ∈ track.sections, s.Writable :=
  writable_of_readLines (by simp [empty]) read

theorem text_toList (track : Track) : track.text.toList =
    ['\n'].intercalate (track.sections.map fun s => s.text.toList) := by
  rw [text, String.toList_intercalate, List.map_map]
  rfl

/-- The lines of a track are those of its sections, also in a file. -/
theorem lines_text {track : Track} (writable : ∀ s ∈ track.sections, s.Writable) :
    Text.lines track.text = track.sections.map Section.text ∧
      Text.lines track.fileText = track.sections.map Section.text := by
  have read_back : (track.sections.map fun s => s.text.toList).map String.ofList =
      track.sections.map Section.text := by
    simp [Function.comp_def]
  obtain ⟨closed, opened⟩ := Text.linesOf_intercalate
    (List.forall_mem_map.mpr fun s _ => s.text_toList_ne_nil)
    (List.forall_mem_map.mpr fun s stored => (writable s stored).unbroken)
  have lines_eq : Text.lines track.text = track.sections.map Section.text := by
    rw [Text.lines, text_toList, closed, read_back]
  refine ⟨lines_eq, ?_⟩
  unfold fileText
  split
  next empty => rw [← empty, lines_eq]
  next nonempty =>
    have some_sections : (track.sections.map fun s => s.text.toList) ≠ [] := by
      intro absent
      have blank := track.text_toList
      rw [absent] at blank
      exact nonempty (String.toList_eq_nil_iff.mp blank)
    rw [Text.lines, String.toList_append, text_toList]
    exact (congrArg (List.map String.ofList) (opened some_sections)).trans read_back

theorem ofLines_texts {track : Track} (writable : ∀ s ∈ track.sections, s.Writable) :
    ∃ read, ofLines (track.sections.map Section.text) = .ok read ∧
      read.sections = track.sections :=
  @readLines_texts empty track.sections track.apart writable 1

/-- The text of a track is read as its sections. -/
theorem ofText_text {track : Track} (writable : ∀ s ∈ track.sections, s.Writable) :
    ∃ read, ofText track.text = .ok read ∧ read.sections = track.sections := by
  rw [ofText, (lines_text writable).1]
  exact ofLines_texts writable

/-- The line of a section is a definition of the section alone. -/
theorem ofText_section {s : Section} (writable : s.Writable) :
    ∃ track, ofText s.text = .ok track ∧ track.sections = [s] ∧ track.text = s.text := by
  have alone : ∀ t ∈ (single s).sections, t.Writable := List.forall_mem_singleton.mpr writable
  have text_eq : (single s).text = s.text := rfl
  obtain ⟨track, read, sections_eq⟩ := ofText_text alone
  refine ⟨track, text_eq ▸ read, sections_eq, ?_⟩
  rw [← text_eq, text, text, sections_eq]

/-- The bytes of the file of a track. -/
def fileBytes (track : Track) : ByteArray :=
  (String.ofList (Text.characters track.fileText)).toUTF8

theorem encodable_fileText {track : Track}
    (names : ∀ s ∈ track.sections, ∀ e ∈ s.ends, Text.Encodable e.junction.toList) :
    Text.Encodable track.fileText.toList := by
  unfold fileText
  split
  · exact .nil
  · rw [String.toList_append, text_toList]
    refine Text.Encodable.append (.intercalate (Text.encodable_of_not_mem (by decide)) ?_)
      (Text.encodable_of_not_mem (by decide))
    exact List.forall_mem_map.mpr fun s stored => Section.encodable_text (names s stored)

theorem carriageReturn_not_mem_fileText {track : Track}
    (writable : ∀ s ∈ track.sections, s.Writable) : '\r' ∉ track.fileText.toList := by
  have unbroken : ∀ c ∈ track.fileText.toList, c = '\n' ∨ Text.isLineBreak c = false := by
    unfold fileText
    split
    · simp
    · rw [String.toList_append, text_toList]
      refine List.forall_mem_append.mpr ⟨Text.forall_mem_intercalate (by simp) ?_, by simp⟩
      exact List.forall_mem_map.mpr fun s stored c member =>
        .inr ((writable s stored).unbroken c member)
  intro member
  exact absurd (unbroken _ member) (by decide)

/-- The file of a track is read as its sections. -/
theorem ofFile?_fileBytes {track : Track} (writable : ∀ s ∈ track.sections, s.Writable)
    (names : ∀ s ∈ track.sections, ∀ e ∈ s.ends, Text.Encodable e.junction.toList) :
    ∃ read, ofFile? track.fileBytes = some (.ok read) ∧ read.sections = track.sections := by
  obtain ⟨row, spelled⟩ := encodable_fileText names
  -- The bytes spell a row of characters, in which reading finds no line end to unify.
  have absent : '\r' ∉ row := fun member =>
    carriageReturn_not_mem_fileText writable (Text.mem_of_mem_spelled spelled member)
  have text_eq : Text.ofCharacters row = track.fileText := by
    rw [Text.ofCharacters, Text.spell, spelled, String.ofList_toList]
  have read_eq : ofFile? track.fileBytes = some (ofText track.fileText) := by
    rw [ofFile?, fileBytes, Text.fromUTF8?_toUTF8, Text.characters_of_spelled spelled,
      Option.map_some, String.toList_ofList, Text.unifyNewlines_of_not_mem absent, text_eq]
  obtain ⟨read, ok, sections_eq⟩ := ofLines_texts writable
  refine ⟨read, ?_, sections_eq⟩
  rw [read_eq, ofText, (lines_text writable).2, ok]

/-- What a track with fit names writes is read as its sections, from a text, and, when its names can
be put into bytes, also from a file. What any text is read as writes a text that is read again, as
the same sections, and so writes the same text again. -/
theorem definition_roundTrip :
    (∀ track : Track, (∀ s ∈ track.sections, s.Writable) →
      (∃ read, ofText track.text = .ok read ∧ read.sections = track.sections) ∧
      ((∀ s ∈ track.sections, ∀ e ∈ s.ends, Text.Encodable e.junction.toList) →
        Text.octets track.fileText = track.fileBytes.toList.map UInt8.toNat ∧
          ∃ read, ofFile? track.fileBytes = some (.ok read) ∧ read.sections = track.sections)) ∧
      ∀ (text : String) (track : Track), ofText text = .ok track →
        ∃ again, ofText track.text = .ok again ∧ again.sections = track.sections ∧
          again.text = track.text := by
  refine ⟨fun track writable => ⟨ofText_text writable, fun names => ⟨rfl, ?_⟩⟩, ?_⟩
  · exact ofFile?_fileBytes writable names
  · intro text track read
    have writable := writable_of_ofText read
    obtain ⟨again, ok, sections_eq⟩ := ofText_text writable
    exact ⟨again, ok, sections_eq, by rw [Track.text, Track.text, sections_eq]⟩

/-- A sign, leading zeros, wide blanks and a closing line end are read, and not written again. -/
theorem definition_roundTrip_line :
    (∃ read, ofText (single .line).text = .ok read ∧ read.sections = [.line]) ∧
      (∃ read, ofFile? (single .line).fileBytes = some (.ok read) ∧ read.sections = [.line]) ∧
      ∃ track again, ofText "+010\tj1 FACING  j2 NORMAL\r\n" = .ok track ∧
        ofText track.text = .ok again ∧ again.text = "10 j1 FACING j2 NORMAL" := by
  have stored : (single .line).sections = [.line] := rfl
  have ends : Section.line.ends = [⟨"j1", .facing⟩, ⟨"j2", .normal⟩] := rfl
  have writable : ∀ s ∈ (single .line).sections, s.Writable := by
    rw [stored, List.forall_mem_singleton]
    refine ⟨?_, by decide⟩
    rw [ends, List.forall_mem_cons, List.forall_mem_singleton]
    exact ⟨by decide, by decide⟩
  have names : ∀ s ∈ (single .line).sections, ∀ e ∈ s.ends,
      Text.Encodable e.junction.toList := by
    rw [stored, List.forall_mem_singleton, ends, List.forall_mem_cons,
      List.forall_mem_singleton]
    exact ⟨Text.encodable_of_not_mem (by decide), Text.encodable_of_not_mem (by decide)⟩
  obtain ⟨of_text, of_file⟩ := definition_roundTrip.1 (single .line) writable
  obtain ⟨track, written, track_sections⟩ :=
    @addWritten_of_apart empty .line (by simp [empty])
  have line_read (number : Option Int) :
      Section.ofLine number "+010\tj1 FACING  j2 NORMAL" = .ok .line := rfl
  have lines_eq : Text.lines "+010\tj1 FACING  j2 NORMAL\r\n" =
      ["+010\tj1 FACING  j2 NORMAL"] := by decide
  have read : ofText "+010\tj1 FACING  j2 NORMAL\r\n" = .ok track := by
    rw [ofText, lines_eq, ofLines, readLines, line_read]
    simp only [written, readLines]
  obtain ⟨again, ok, again_sections, text_eq⟩ := definition_roundTrip.2 _ track read
  refine ⟨of_text, (of_file names).2, track, again, read, ok, ?_⟩
  rw [text_eq, text, track_sections]
  decide

end Track

end Trackage
