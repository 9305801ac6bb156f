import ProseTree.Proofs.Language.Division
import ProseTree.Proofs.Text.Tokens

/-!
# Paragraphs on lines of their own

A paragraph that stands on one line ends where the line ends. Lines with blank lines between them are
the paragraph candidates of the whole text, each with its indent; how many blank lines there are and
what white space stands in them does not matter.
-/

namespace ProseTree.Language

/-- A line that ends with no white space. -/
structure IsLine (line : Text) : Prop where
  nonempty : line ≠ []
  noBreak : ∀ c ∈ line, c ≠ '\n' ∧ c ≠ '\r'
  closed : ∀ c ∈ line.getLast?, Text.isBlank c = false

variable {line : Text}

/-- A line is an indent and a text that starts with no white space. -/
theorem IsLine.exists_indent (isLine : IsLine line) :
    ∃ indent c rest, line = indent ++ c :: rest ∧ (∀ d ∈ indent, Text.isBlank d = true) ∧
      Text.isBlank c = false := by
  have cut : line = line.takeWhile Text.isBlank ++ line.dropWhile Text.isBlank :=
    List.takeWhile_append_dropWhile.symm
  have indented : ∀ d ∈ line.takeWhile Text.isBlank, Text.isBlank d = true :=
    fun d member => List.all_eq_true.1 List.all_takeWhile d member
  cases rest : line.dropWhile Text.isBlank with
  | nil =>
    rw [rest, List.append_nil] at cut
    rw [← cut] at indented
    have final := isLine.closed _ (List.getLast?_eq_some_getLast isLine.nonempty)
    rw [indented _ (List.getLast_mem isLine.nonempty)] at final
    cases final
  | cons c rest' =>
    have stopped := List.head?_dropWhile_not Text.isBlank line
    rw [rest] at cut stopped
    exact ⟨_, c, rest', cut, indented, by simpa using stopped⟩

/-- Spaced words behind an indent are a line. -/
theorem isLine_append {indent body : Text} (noBreak : ∀ c ∈ indent, c ≠ '\n' ∧ c ≠ '\r')
    (spaced : body.IsSpaced) : IsLine (indent ++ body) := by
  obtain ⟨c, rest, starts, _⟩ := spaced.exists_cons
  constructor
  · simp [starts]
  · intro d member
    obtain inIndent | inBody := List.mem_append.1 member
    · exact noBreak d inIndent
    · have space := spaced.eq_space_of_isBlank d inBody
      constructor
      · rintro rfl
        exact absurd (space rfl) (by decide)
      · rintro rfl
        exact absurd (space rfl) (by decide)
  · intro d final
    apply spaced.noBlank_getLast?
    rw [starts] at final ⊢
    simpa [List.getLast?_append] using final

/-- What stands between two lines with blank lines between them: the end of the first one, and white
space up to a line feed. -/
def IsBlankLines (separator : Text) : Prop :=
  ∃ ending blank : Text, (ending = "\n" ∨ ending = "\r\n") ∧ (∀ c ∈ blank, Text.isBlank c = true) ∧
    separator = ending ++ (blank ++ ['\n'])

/-- An empty line is a blank line. -/
theorem isBlankLines_empty : IsBlankLines "\n\n" :=
  ⟨"\n", [], .inl rfl, by simp, rfl⟩

/-- The texts of lines with blank lines between them. -/
inductive IsLaidOut : List Text → Text → Prop
  | nil : IsLaidOut [] []
  | single (line : Text) : IsLaidOut [line] line
  | cons {line second separator rest : Text} {others : List Text} (apart : IsBlankLines separator)
      (following : IsLaidOut (second :: others) rest) :
      IsLaidOut (line :: second :: others) (line ++ (separator ++ rest))

/-- Lines that are joined by empty lines are laid out. -/
theorem isLaidOut_join (lines : List Text) : IsLaidOut lines (Text.join "\n\n" lines) := by
  induction lines with
  | nil => exact .nil
  | cons line others inductionHypothesis =>
    cases others with
    | nil => exact .single line
    | cons second others =>
      rw [Text.join_cons (List.cons_ne_nil second others)]
      exact .cons isBlankLines_empty inductionHypothesis

/-- A text that is laid out starts with the first line. -/
theorem IsLaidOut.exists_append {first text : Text} {others : List Text}
    (laidOut : IsLaidOut (first :: others) text) : ∃ rest, text = first ++ rest := by
  cases laidOut with
  | single => exact ⟨[], (List.append_nil _).symm⟩
  | cons => exact ⟨_, rfl⟩

/-- White space that ends with a line feed is left out, and the indent of the next line stays. -/
theorem afterBlankLines?_append {blank : Text} (allBlank : ∀ c ∈ blank, Text.isBlank c = true)
    (isLine : IsLine line) (rest : Text) :
    afterBlankLines? (blank ++ '\n' :: (line ++ rest)) = some (line ++ rest) := by
  obtain ⟨indent, c, body, rfl, indented, solid⟩ := isLine.exists_indent
  have ended : ∀ d ∈ (c :: (body ++ rest)).head?, Text.isBlank d = false := by simpa using solid
  have feeds : ∀ d ∈ blank ++ '\n' :: indent, Text.isBlank d = true :=
    List.forall_mem_append.2 ⟨allBlank, List.forall_mem_cons.2 ⟨by decide, indented⟩⟩
  have takes := Text.takeWhile_append_of_ended feeds ended
  have drops := Text.dropWhile_append_of_ended feeds ended
  have noFeed : ∀ d ∈ indent.reverse, (d != '\n') = true := by
    intro d member
    have notFeed := isLine.noBreak d (List.mem_append_left _ (List.mem_reverse.1 member))
    simpa using notFeed.1
  have afterFeed : (blank ++ '\n' :: indent).reverse.takeWhile (· != '\n') = indent.reverse := by
    rw [List.reverse_append, List.reverse_cons, List.append_assoc, List.singleton_append]
    exact Text.takeWhile_append_of_ended noFeed (by simp)
  have hasFeed : (blank ++ '\n' :: indent).contains '\n' = true := by simp
  have regrouped : blank ++ '\n' :: (indent ++ c :: body ++ rest) =
      blank ++ '\n' :: indent ++ c :: (body ++ rest) := by simp
  rw [regrouped, afterBlankLines?]
  simp only [takes, drops, afterFeed, hasFeed, if_true, List.reverse_reverse]
  simp

/-- Blank lines end a paragraph. -/
theorem afterParagraphBreak?_append {separator : Text} (apart : IsBlankLines separator)
    (isLine : IsLine line) (rest : Text) :
    afterParagraphBreak? (separator ++ (line ++ rest)) = some (line ++ rest) := by
  obtain ⟨ending, blank, isEnding, allBlank, rfl⟩ := apart
  have after := afterBlankLines?_append allBlank isLine rest
  rw [List.append_assoc, List.append_assoc, List.singleton_append]
  obtain rfl | rfl := isEnding <;> exact after

/-- A line goes on with the piece behind it. -/
theorem cutAtParagraphBreaks_append (noBreak : ∀ c ∈ line, c ≠ '\n' ∧ c ≠ '\r') {rest piece : Text}
    {pieces : List Text} (cut : cutAtParagraphBreaks rest = piece :: pieces) :
    cutAtParagraphBreaks (line ++ rest) = (line ++ piece) :: pieces := by
  induction line with
  | nil => exact cut
  | cons c line inductionHypothesis =>
    obtain ⟨⟨noFeed, noReturn⟩, others⟩ := List.forall_mem_cons.1 noBreak
    have missing : afterParagraphBreak? (c :: (line ++ rest)) = none := by
      unfold afterParagraphBreak?
      split
      · rename_i same
        exact absurd (List.cons.inj same).1 noReturn
      · rename_i same
        exact absurd (List.cons.inj same).1 noFeed
      · rfl
    rw [List.cons_append, cutAtParagraphBreaks_cons_of_none missing, inductionHypothesis others]
    rfl

/-- The text behind blank lines is cut off. -/
theorem cutAtParagraphBreaks_separator_append {separator : Text} (apart : IsBlankLines separator)
    (isLine : IsLine line) (rest : Text) :
    cutAtParagraphBreaks (separator ++ (line ++ rest)) = [] :: cutAtParagraphBreaks (line ++ rest) := by
  have found := afterParagraphBreak?_append apart isLine rest
  cases whole : separator ++ (line ++ rest) with
  | nil =>
    rw [whole] at found
    cases found
  | cons c others =>
    rw [whole] at found
    exact cutAtParagraphBreaks_cons_of_some found

/-- Lines with blank lines between them are the pieces of the whole. -/
theorem cutAtParagraphBreaks_of_isLaidOut {first text : Text} {others : List Text}
    (laidOut : IsLaidOut (first :: others) text) (lines : ∀ line ∈ first :: others, IsLine line) :
    cutAtParagraphBreaks text = first :: others := by
  have closed : cutAtParagraphBreaks [] = [[]] := by
    rw [cutAtParagraphBreaks]
  induction others generalizing first text with
  | nil =>
    cases laidOut with
    | single =>
      have single := cutAtParagraphBreaks_append (lines first List.mem_cons_self).noBreak closed
      rw [List.append_nil] at single
      exact single
  | cons second others inductionHypothesis =>
    obtain ⟨isLine, following⟩ := List.forall_mem_cons.1 lines
    cases laidOut with
    | cons apart laidOut =>
      have behind := inductionHypothesis laidOut following
      obtain ⟨rest, rfl⟩ := laidOut.exists_append
      have atBreak :=
        cutAtParagraphBreaks_separator_append apart (following second List.mem_cons_self) rest
      rw [behind] at atBreak
      rw [cutAtParagraphBreaks_append isLine.noBreak atBreak, List.append_nil]

/-- A line stays as it is when it is trimmed as a piece of a text. -/
theorem IsLine.trimPiece_eq (isLine : IsLine line) : trimPiece line = line := by
  have starts : line.dropWhile (fun c => c == '\r' || c == '\n') = line := by
    cases line with
    | nil => rfl
    | cons c rest =>
      obtain ⟨noFeed, noReturn⟩ := isLine.noBreak c List.mem_cons_self
      exact List.dropWhile_cons_of_neg (by simp [noFeed, noReturn])
  rw [trimPiece, starts, Text.trimEnd_eq_self isLine.closed]

/-- A line is not blank. -/
theorem IsLine.trim_ne_nil (isLine : IsLine line) : Text.trim line ≠ [] := by
  intro nothing
  have allBlank : ∀ c ∈ line, Text.isBlank c = true := by
    rw [← Text.unspaced_eq_nil_iff, ← Text.unspaced_trim, nothing]
    rfl
  have final := isLine.closed _ (List.getLast?_eq_some_getLast isLine.nonempty)
  rw [allBlank _ (List.getLast_mem isLine.nonempty)] at final
  cases final

/-- Lines with blank lines between them are the paragraph candidates of the whole. -/
theorem paragraphCandidates_of_isLaidOut {lines : List Text} {text : Text}
    (laidOut : IsLaidOut lines text) (each : ∀ line ∈ lines, IsLine line) :
    paragraphCandidates text = lines := by
  cases lines with
  | nil =>
    cases laidOut
    rw [paragraphCandidates, cutAtParagraphBreaks]
    rfl
  | cons first others =>
    have trimmed : (first :: others).map trimPiece = first :: others := by
      conv => rhs; rw [← List.map_id (first :: others)]
      exact List.map_congr_left fun line member => (each line member).trimPiece_eq
    rw [paragraphCandidates, cutAtParagraphBreaks_of_isLaidOut laidOut each, trimmed,
      List.filter_eq_self]
    intro line member
    rw [Bool.not_eq_true', List.isEmpty_eq_false_iff]
    exact (each line member).trim_ne_nil

/-- Lines with empty lines between them are the paragraph candidates of the whole. -/
theorem paragraphCandidates_join {lines : List Text} (each : ∀ line ∈ lines, IsLine line) :
    paragraphCandidates (Text.join "\n\n" lines) = lines :=
  paragraphCandidates_of_isLaidOut (isLaidOut_join lines) each

end ProseTree.Language
