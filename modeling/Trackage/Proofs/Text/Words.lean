import Trackage.Text.Basic
import Trackage.Proofs.Text.Numeral

/-!
Words and lines that are joined and cut again. Words are joined by single blanks and lines by line
feeds; cutting at any blank, or at any line boundary, gives back what was joined, because neither
hides in a word.
-/

namespace Trackage.Text

/-- A word: it is not empty, and holds no blank. -/
def IsWord (word : List Char) : Prop := word ≠ [] ∧ ∀ c ∈ word, isBlank c = false

instance (word : List Char) : Decidable (IsWord word) :=
  decidable_of_iff (word ≠ [] ∧ (word.all fun c => !isBlank c) = true) (by simp [IsWord])

theorem isBlank_of_isLineBreak {c : Char} (ends : isLineBreak c = true) : isBlank c = true := by
  simp only [isLineBreak, isBlank, Bool.or_eq_true, Bool.and_eq_true, decide_eq_true_eq,
    beq_iff_eq] at ends ⊢
  omega

/-- No line boundary hides in a word. -/
theorem IsWord.unbroken {word : List Char} (isWord : IsWord word) :
    ∀ c ∈ word, isLineBreak c = false := by
  intro c member
  cases ends : isLineBreak c with
  | false => rfl
  | true => exact absurd (isBlank_of_isLineBreak ends) (by simp [isWord.2 c member])

theorem isBlank_of_isDigit {c : Char} (digit : c.isDigit = true) : isBlank c = false := by
  have within := toNat_of_isDigit digit
  simp only [isBlank, Bool.or_eq_false_iff, Bool.and_eq_false_iff, decide_eq_false_iff_not,
    beq_eq_false_iff_ne]
  omega

theorem forall_mem_intercalate {α : Type} {p : α → Prop} {separator : List α}
    {parts : List (List α)} (of_separator : ∀ a ∈ separator, p a)
    (of_parts : ∀ part ∈ parts, ∀ a ∈ part, p a) : ∀ a ∈ separator.intercalate parts, p a := by
  induction parts with
  | nil => simp
  | cons part parts ih =>
    obtain ⟨first, others⟩ := List.forall_mem_cons.mp of_parts
    cases parts with
    | nil => simpa using first
    | cons next parts =>
      rw [List.intercalate_cons_cons]
      simp only [List.forall_mem_append]
      exact ⟨⟨first, of_separator⟩, ih others⟩

section Words

variable {word rest : List Char}

theorem leadingWord_append (unbroken : ∀ c ∈ word, isBlank c = false) :
    leadingWord (word ++ rest) = (word ++ (leadingWord rest).1, (leadingWord rest).2) := by
  induction word with
  | nil => rfl
  | cons c word ih =>
    have first : isBlank c = false := unbroken c List.mem_cons_self
    have others := ih fun d later => unbroken d (List.mem_cons_of_mem c later)
    simp [leadingWord, others, first]

theorem leadingWord_cons_blank {blank : Char} (separates : isBlank blank = true) :
    leadingWord (blank :: rest) = ([], wordsOf rest) := by
  simp only [leadingWord, separates, if_true, wordsOf]

theorem wordsOf_of_isWord (isWord : IsWord word) : wordsOf word = [word] := by
  have cut : leadingWord (word ++ []) = _ := leadingWord_append isWord.2
  simp only [leadingWord, List.append_nil] at cut
  simp [wordsOf, cut, isWord.1]

theorem wordsOf_append_blank (isWord : IsWord word) {blank : Char}
    (separates : isBlank blank = true) :
    wordsOf (word ++ blank :: rest) = word :: wordsOf rest := by
  rw [wordsOf, leadingWord_append isWord.2, leadingWord_cons_blank separates]
  simp [isWord.1]

/-- Words that are joined by blanks are cut where they were joined. -/
theorem wordsOf_intercalate {words : List (List Char)} (are_words : ∀ word ∈ words, IsWord word) :
    wordsOf ([' '].intercalate words) = words := by
  induction words with
  | nil => rfl
  | cons word words ih =>
    have first : IsWord word := are_words word List.mem_cons_self
    have rest := ih fun other later => are_words other (List.mem_cons_of_mem word later)
    cases words with
    | nil => rw [List.intercalate_singleton, wordsOf_of_isWord first]
    | cons next words =>
      rw [List.intercalate_cons_cons, List.append_assoc, List.singleton_append,
        wordsOf_append_blank first (by decide), rest]

theorem mem_wordsOf {text : List Char} (member : word ∈ wordsOf text) :
    (word ≠ [] ∧ word = (leadingWord text).1) ∨ word ∈ (leadingWord text).2 := by
  unfold wordsOf at member
  cases first : (leadingWord text).1 with
  | nil => exact .inr (by simpa [first] using member)
  | cons c chars =>
    simp only [first, List.isEmpty_cons, Bool.false_eq_true, if_false, List.mem_cons] at member
    exact member.imp_left fun same => ⟨by simp [same], same⟩

theorem isWord_of_mem_leadingWord (text : List Char) :
    (∀ c ∈ (leadingWord text).1, isBlank c = false) ∧
      ∀ word ∈ (leadingWord text).2, IsWord word := by
  induction text with
  | nil => simp [leadingWord]
  | cons c text ih =>
    obtain ⟨unbroken, others⟩ := ih
    cases separates : isBlank c with
    -- Behind a blank the first word of the rest is one of the later words.
    | true =>
      rw [leadingWord_cons_blank separates]
      refine ⟨by simp, fun word member => ?_⟩
      rcases mem_wordsOf member with ⟨nonempty, rfl⟩ | later
      · exact ⟨nonempty, unbroken⟩
      · exact others word later
    | false =>
      simp only [leadingWord, separates, Bool.false_eq_true, if_false]
      exact ⟨List.forall_mem_cons.mpr ⟨separates, unbroken⟩, others⟩

/-- What a text is cut into are words. -/
theorem isWord_of_mem_wordsOf {text : List Char} (member : word ∈ wordsOf text) : IsWord word := by
  obtain ⟨unbroken, others⟩ := isWord_of_mem_leadingWord text
  rcases mem_wordsOf member with ⟨nonempty, rfl⟩ | later
  · exact ⟨nonempty, unbroken⟩
  · exact others word later

theorem IsNumeral.isWord {text : List Char} {value : Int} (isNumeral : IsNumeral text value) :
    IsWord text := by
  constructor
  · cases isNumeral with
    | plain nonempty => exact nonempty
    | plus | minus => exact List.cons_ne_nil _ _
  · intro c member
    rcases isNumeral.sign_or_digit c member with rfl | rfl | digit
    · decide
    · decide
    · exact isBlank_of_isDigit digit

theorem isWord_toDigits (n : Nat) : IsWord (Nat.toDigits 10 n) := (isNumeral_toDigits n).isWord

end Words

section Lines

variable {line rest : List Char}

theorem linesOf_cons_of_not_break {c : Char} (inside : isLineBreak c = false) :
    linesOf (c :: rest) = (c :: (linesOf rest).headD []) :: (linesOf rest).tail := by
  -- The equation for a carriage return and a line feed comes first.
  rw [linesOf]
  · rw [if_neg (by simp [inside])]
    cases linesOf rest <;> rfl
  · rintro tail rfl
    simp [isLineBreak] at inside

theorem linesOf_append_lineFeed (unbroken : ∀ c ∈ line, isLineBreak c = false) :
    linesOf (line ++ '\n' :: rest) = line :: linesOf rest := by
  induction line with
  | nil => rfl
  | cons c line ih =>
    have others := ih fun d later => unbroken d (List.mem_cons_of_mem c later)
    rw [List.cons_append, linesOf_cons_of_not_break (unbroken c List.mem_cons_self), others]
    rfl

theorem linesOf_of_unbroken (nonempty : line ≠ []) (unbroken : ∀ c ∈ line, isLineBreak c = false) :
    linesOf line = [line] := by
  induction line with
  | nil => exact absurd rfl nonempty
  | cons c line ih =>
    rw [linesOf_cons_of_not_break (unbroken c List.mem_cons_self)]
    cases line with
    | nil => rfl
    | cons d line =>
      rw [ih (List.cons_ne_nil d line) fun e later => unbroken e (List.mem_cons_of_mem c later)]
      rfl

/-- Lines that are joined by line feeds are cut where they were joined, also when a line feed
follows the last one. -/
theorem linesOf_intercalate {lines : List (List Char)} (nonempty : ∀ line ∈ lines, line ≠ [])
    (unbroken : ∀ line ∈ lines, ∀ c ∈ line, isLineBreak c = false) :
    linesOf (['\n'].intercalate lines) = lines ∧
      (lines ≠ [] → linesOf (['\n'].intercalate lines ++ ['\n']) = lines) := by
  induction lines with
  | nil => exact ⟨rfl, fun absent => absurd rfl absent⟩
  | cons line lines ih =>
    obtain ⟨closed, opened⟩ := ih
      (fun other later => nonempty other (List.mem_cons_of_mem line later))
      (fun other later => unbroken other (List.mem_cons_of_mem line later))
    have first := unbroken line List.mem_cons_self
    cases lines with
    | nil =>
      rw [List.intercalate_singleton]
      exact ⟨linesOf_of_unbroken (nonempty line List.mem_cons_self) first,
        fun _ => linesOf_append_lineFeed first⟩
    | cons next lines =>
      rw [List.intercalate_cons_cons]
      have closing := opened (List.cons_ne_nil next lines)
      simp only [List.append_assoc, List.cons_append, List.nil_append,
        linesOf_append_lineFeed first, closed, closing, and_self, implies_true]

/-- A text without carriage returns has its line ends unified already. -/
theorem unifyNewlines_of_not_mem {text : List Char} (absent : '\r' ∉ text) :
    unifyNewlines text = text := by
  induction text with
  | nil => rfl
  | cons c text ih =>
    obtain ⟨other, rest⟩ := not_or.mp (mt List.mem_cons.mpr absent)
    rw [unifyNewlines, if_neg (Ne.symm other), ih rest]
    rintro tail rfl
    exact absurd rfl other

end Lines

end Trackage.Text
