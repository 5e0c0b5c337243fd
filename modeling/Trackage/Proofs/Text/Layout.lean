import Trackage.Proofs.Text.Words

/-!
Layouts of a text. Rows of words stand on lines of their own: words are set apart by blanks of any
kind, lines by any line boundary, and blank lines may stand wherever a line starts. Whatever the layout
is, cutting the text gives back the rows.
-/

namespace Trackage.Text

/-- The words of those lines that have any. -/
def rowsOf (text : List Char) : List (List (List Char)) :=
  ((linesOf text).map wordsOf).filter (· ≠ [])

/-- Blanks that end no line. -/
def IsGap (gap : List Char) : Prop := ∀ c ∈ gap, isBlank c = true ∧ isLineBreak c = false

instance (gap : List Char) : Decidable (IsGap gap) :=
  decidable_of_iff ((gap.all fun c => isBlank c && !isLineBreak c) = true) (by simp [IsGap])

/-- A line that words stand on, with a gap behind each; only the last gap may be empty. -/
inductive Spaced : List (List Char) → List Char → Prop
  | last {word gap : List Char} (isGap : IsGap gap) : Spaced [word] (word ++ gap)
  | next {word gap line : List Char} {row : List (List Char)} (isGap : IsGap gap) (apart : gap ≠ [])
      (others : Spaced row line) : Spaced (word :: row) (word ++ (gap ++ line))

inductive EndsLine : List Char → Prop
  | alone {c : Char} (breaks : isLineBreak c = true) : EndsLine [c]
  | together : EndsLine ['\r', '\n']

/-- A text that rows of words stand in. Where a line may start there may be any blank, also one that
ends the line. -/
inductive LaidOut : List (List (List Char)) → List Char → Prop
  | nil : LaidOut [] []
  | blank {c : Char} {text : List Char} {rows : List (List (List Char))}
      (separates : isBlank c = true) (others : LaidOut rows text) : LaidOut rows (c :: text)
  | last {line : List Char} {row : List (List Char)} (spaced : Spaced row line) :
      LaidOut [row] line
  | next {line ending text : List Char} {row : List (List Char)} {rows : List (List (List Char))}
      (spaced : Spaced row line) (ends : EndsLine ending) (others : LaidOut rows text) :
      LaidOut (row :: rows) (line ++ (ending ++ text))

variable {word gap line text : List Char} {row : List (List Char)}

theorem wordsOf_cons_blank {c : Char} (separates : isBlank c = true) :
    wordsOf (c :: text) = wordsOf text := by
  rw [wordsOf, leadingWord_cons_blank separates]
  rfl

theorem IsGap.wordsOf_append (isGap : IsGap gap) : wordsOf (gap ++ text) = wordsOf text := by
  induction gap with
  | nil => rfl
  | cons c gap ih =>
    obtain ⟨first, others⟩ := List.forall_mem_cons.mp isGap
    rw [List.cons_append, wordsOf_cons_blank first.1, ih others]

/-- Behind a word, a gap only has to be there where another word follows. -/
theorem wordsOf_append_gap (isWord : IsWord word) (isGap : IsGap gap)
    (apart : gap = [] → text = []) : wordsOf (word ++ (gap ++ text)) = word :: wordsOf text := by
  cases gap with
  | nil =>
    rw [apart rfl, List.nil_append, List.append_nil, wordsOf_of_isWord isWord]
    rfl
  | cons c gap =>
    obtain ⟨first, others⟩ := List.forall_mem_cons.mp isGap
    rw [List.cons_append, wordsOf_append_blank isWord first.1, IsGap.wordsOf_append others]

namespace Spaced

theorem wordsOf_eq (spaced : Spaced row line) (are_words : ∀ word ∈ row, IsWord word) :
    wordsOf line = row := by
  induction spaced with
  | @last word gap isGap =>
    have isWord := are_words word List.mem_cons_self
    have cut : wordsOf (word ++ (gap ++ [])) = _ := wordsOf_append_gap isWord isGap fun _ => rfl
    simpa [wordsOf, leadingWord] using cut
  | @next word gap line row isGap apart _ ih =>
    obtain ⟨first, others⟩ := List.forall_mem_cons.mp are_words
    rw [wordsOf_append_gap first isGap fun absent => absurd absent apart, ih others]

/-- No line boundary hides among spaced words. -/
theorem unbroken (spaced : Spaced row line) (are_words : ∀ word ∈ row, IsWord word) :
    ∀ c ∈ line, isLineBreak c = false := by
  induction spaced with
  | last isGap =>
    have word_unbroken := (are_words _ List.mem_cons_self).unbroken
    exact List.forall_mem_append.mpr ⟨word_unbroken, fun c member => (isGap c member).2⟩
  | next isGap _ _ ih =>
    obtain ⟨first, others⟩ := List.forall_mem_cons.mp are_words
    simp only [List.forall_mem_append]
    exact ⟨first.unbroken, fun c member => (isGap c member).2, ih others⟩

theorem row_ne_nil (spaced : Spaced row line) : row ≠ [] := by
  cases spaced <;> exact List.cons_ne_nil _ _

end Spaced

theorem linesOf_lineFeed (rest : List Char) : linesOf ('\n' :: rest) = [] :: linesOf rest := by
  simp [linesOf, isLineBreak]

/-- A line boundary in front of a text opens an empty line, or is the first half of one that did. -/
theorem linesOf_cons_break {c : Char} (breaks : isLineBreak c = true) (text : List Char) :
    linesOf (c :: text) = [] :: linesOf text ∨
      ∃ rest, text = '\n' :: rest ∧ linesOf (c :: text) = linesOf text := by
  by_cases both : c = '\r' ∧ ∃ rest, text = '\n' :: rest
  · obtain ⟨rfl, rest, rfl⟩ := both
    exact .inr ⟨rest, rfl, by rw [linesOf, linesOf_lineFeed]⟩
  · left
    rw [linesOf]
    · rw [if_pos breaks]
    · rintro rest rfl rfl
      exact both ⟨rfl, rest, rfl⟩

theorem rowsOf_cons_blank {c : Char} (separates : isBlank c = true) :
    rowsOf (c :: text) = rowsOf text := by
  cases breaks : isLineBreak c with
  | true =>
    rcases linesOf_cons_break breaks text with opened | ⟨_, -, same⟩
    · simp [rowsOf, opened, wordsOf, leadingWord]
    · simp only [rowsOf, same]
  | false =>
    rw [rowsOf, linesOf_cons_of_not_break breaks, List.map_cons, wordsOf_cons_blank separates, rowsOf]
    -- Without a first line the blank stands alone, and its line has no words.
    cases linesOf text with
    | nil => simp [wordsOf, leadingWord]
    | cons first lines => rfl

/-- What a line ends with opens an empty line when it stands in front of a text. -/
theorem EndsLine.linesOf_append {ending : List Char} (ends : EndsLine ending) (text : List Char) :
    ∃ lines, linesOf (ending ++ text) = [] :: lines := by
  cases ends with
  | together => exact ⟨linesOf text, by rw [List.cons_append, List.singleton_append, linesOf]⟩
  | alone breaks =>
    rcases linesOf_cons_break breaks text with opened | ⟨rest, rfl, same⟩
    · exact ⟨linesOf text, opened⟩
    · exact ⟨linesOf rest, same.trans (linesOf_lineFeed rest)⟩

theorem EndsLine.rowsOf_append {ending : List Char} (ends : EndsLine ending) (text : List Char) :
    rowsOf (ending ++ text) = rowsOf text := by
  cases ends with
  | together => exact (rowsOf_cons_blank (by decide)).trans (rowsOf_cons_blank (by decide))
  | alone breaks => exact rowsOf_cons_blank (isBlank_of_isLineBreak breaks)

theorem linesOf_append {lines : List (List Char)} (unbroken : ∀ c ∈ line, isLineBreak c = false)
    (opened : linesOf text = [] :: lines) : linesOf (line ++ text) = line :: lines := by
  induction line with
  | nil => exact opened
  | cons c line ih =>
    obtain ⟨first, others⟩ := List.forall_mem_cons.mp unbroken
    rw [List.cons_append, linesOf_cons_of_not_break first, ih others]
    rfl

/-- Rows of words are found again in every text that they stand in. -/
theorem LaidOut.rowsOf_eq {rows : List (List (List Char))} (laid_out : LaidOut rows text)
    (are_words : ∀ row ∈ rows, ∀ word ∈ row, IsWord word) : rowsOf text = rows := by
  induction laid_out with
  | nil => rfl
  | blank separates _ ih => rw [rowsOf_cons_blank separates, ih are_words]
  | @last line row spaced =>
    have words := are_words row List.mem_cons_self
    have found := spaced.wordsOf_eq words
    -- An empty line would have no words.
    have nonempty : line ≠ [] := by
      rintro rfl
      exact spaced.row_ne_nil found.symm
    rw [rowsOf, linesOf_of_unbroken nonempty (spaced.unbroken words)]
    simp [found, spaced.row_ne_nil]
  | @next line ending text row rows spaced ends _ ih =>
    obtain ⟨words, others⟩ := List.forall_mem_cons.mp are_words
    obtain ⟨lines, opened⟩ := ends.linesOf_append text
    have behind : rowsOf text = (lines.map wordsOf).filter (· ≠ []) := by
      rw [← ends.rowsOf_append text, rowsOf, opened]
      simp [wordsOf, leadingWord]
    rw [rowsOf, linesOf_append (spaced.unbroken words) opened, List.map_cons,
      spaced.wordsOf_eq words, List.filter_cons_of_pos (by simpa using spaced.row_ne_nil), ← behind,
      ih others]

end Trackage.Text
