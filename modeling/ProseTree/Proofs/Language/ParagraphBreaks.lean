import ProseTree.Proofs.Language.Division
import ProseTree.Proofs.Text.Lines

/-!
# Paragraph breaks and blank lines

A paragraph break is white space with two line feeds, and the greedy search for it never looks at lines.
Line by line it is a line end with blank lines behind it: a line goes on with the line behind it unless
this one is blank, and then the break goes up to the first line that is not.
-/

namespace ProseTree.Language

open ProseTree.Text (IsOnLines splitAtFeeds unspaced)

/-- A line is blank when it is empty or all white space. -/
def isBlankLine (line : Text) : Bool :=
  line.all Text.isBlank

section Breaks

variable {line rest : Text}

/-- All of a blank line is white space. -/
theorem isBlankLine_iff : isBlankLine line = true ↔ ∀ c ∈ line, Text.isBlank c = true :=
  List.all_eq_true

/-- A line that is not blank has a character that is no white space. -/
theorem exists_solid_of_not_blank (solid : isBlankLine line = false) :
    ∃ c ∈ line, Text.isBlank c = false := by
  simpa [isBlankLine] using solid

/-- A text without a line feed starts with no blank line. -/
theorem afterBlankLines?_of_noFeed (noFeed : '\n' ∉ line) : afterBlankLines? line = none := by
  have missing : '\n' ∉ line.takeWhile Text.isBlank :=
    fun member => noFeed ((List.takeWhile_prefix _).subset member)
  simp [afterBlankLines?, missing]

/-- What the white space at the start of a text is when its first line is not blank. -/
theorem afterBlankLines?_append_of_solid (noFeed : '\n' ∉ line) (solid : isBlankLine line = false)
    (rest : Text) : afterBlankLines? (line ++ rest) = none := by
  have stays : (line ++ rest).takeWhile Text.isBlank = line.takeWhile Text.isBlank := by
    rw [List.takeWhile_append, if_neg]
    intro whole
    have same := (List.takeWhile_prefix Text.isBlank (l := line)).eq_of_length whole
    rw [isBlankLine, ← same, List.all_takeWhile] at solid
    cases solid
  have missing : '\n' ∉ line.takeWhile Text.isBlank :=
    fun member => noFeed ((List.takeWhile_prefix _).subset member)
  simp [afterBlankLines?, stays, missing]

/-- A blank line is left out with all that follow it. -/
theorem afterBlankLines?_blank_append (blank : isBlankLine line = true) (rest : Text) :
    afterBlankLines? (line ++ '\n' :: rest) = some ((afterBlankLines? rest).getD rest) := by
  have whole : line ++ '\n' :: rest = line ++ ['\n'] ++ rest := by simp
  have feed : ∀ c ∈ line ++ ['\n'], Text.isBlank c = true :=
    List.forall_mem_append.2 ⟨isBlankLine_iff.1 blank, List.forall_mem_singleton.2 (by decide)⟩
  have taken : (line ++ '\n' :: rest).takeWhile Text.isBlank =
      line ++ '\n' :: rest.takeWhile Text.isBlank := by
    rw [whole, List.takeWhile_append_of_pos feed, List.append_assoc, List.singleton_append]
  have dropped : (line ++ '\n' :: rest).dropWhile Text.isBlank = rest.dropWhile Text.isBlank := by
    rw [whole, List.dropWhile_append_of_pos feed]
  have cut := List.takeWhile_append_dropWhile (p := Text.isBlank) (l := rest)
  simp only [afterBlankLines?, taken, dropped]
  generalize rest.takeWhile Text.isBlank = run at cut
  have last : (line ++ '\n' :: run).reverse.takeWhile (· != '\n') =
      run.reverse.takeWhile (· != '\n') := by
    rw [List.reverse_append, List.reverse_cons, List.append_assoc, List.singleton_append,
      Text.takeWhile_append_cons_of_neg rfl]
  rw [last, if_pos (by simp)]
  by_cases more : '\n' ∈ run
  · rw [if_pos (by simpa using more), Option.getD_some]
  · have all : run.reverse.takeWhile (· != '\n') = run.reverse := by
      rw [← List.append_nil run.reverse, List.takeWhile_append_of_pos]
      · simp
      · intro c member
        simpa using ne_of_mem_of_not_mem (List.mem_reverse.1 member) more
    rw [if_neg (by simpa using more), Option.getD_none, all, List.reverse_reverse, cut]

/-- Where no blank line is left out, the first line is not blank. -/
theorem isBlankLine_eq_false_of_missing (missing : afterBlankLines? (line ++ '\n' :: rest) = none) :
    isBlankLine line = false := by
  rw [← Bool.not_eq_true]
  intro blank
  rw [afterBlankLines?_blank_append blank] at missing
  cases missing

/-- Inside a line no paragraph break starts, but for the carriage return at its end. -/
theorem afterParagraphBreak?_cons {c : Char} (noFeed : '\n' ∉ c :: line) (rest : Text) :
    afterParagraphBreak? (c :: (line ++ '\n' :: rest)) =
      if c = '\r' ∧ line = [] then afterBlankLines? rest else none := by
  unfold afterParagraphBreak?
  split
  · rename_i after same
    obtain ⟨rfl, behind⟩ := List.cons.inj same
    cases line with
    | nil =>
      obtain rfl := (List.cons.inj behind).2
      simp
    | cons d line =>
      obtain ⟨rfl, -⟩ := List.cons.inj behind
      simp at noFeed
  · rename_i same
    obtain ⟨rfl, -⟩ := List.cons.inj same
    simp at noFeed
  · rename_i noReturn noFeed
    rw [if_neg]
    rintro ⟨rfl, rfl⟩
    exact noReturn rest rfl

/-- A line goes on with the lines behind it where no blank line follows. -/
theorem cutAtParagraphBreaks_line_append (noFeed : '\n' ∉ line)
    (missing : afterBlankLines? rest = none) {piece : Text} {pieces : List Text}
    (cut : cutAtParagraphBreaks rest = piece :: pieces) :
    cutAtParagraphBreaks (line ++ '\n' :: rest) = (line ++ '\n' :: piece) :: pieces := by
  induction line with
  | nil =>
    have noBreak : afterParagraphBreak? ('\n' :: rest) = none := missing
    rw [List.nil_append, cutAtParagraphBreaks_cons_of_none noBreak, cut]
    rfl
  | cons c line inductionHypothesis =>
    have noBreak := afterParagraphBreak?_cons noFeed rest
    rw [missing, ite_self] at noBreak
    rw [List.cons_append, cutAtParagraphBreaks_cons_of_none noBreak,
      inductionHypothesis (fun member => noFeed (List.mem_cons_of_mem c member))]
    rfl

/-- A line ends a piece where a blank line follows, and its carriage return is left out. -/
theorem exists_cutAtParagraphBreaks_line_append (noFeed : '\n' ∉ line) {after : Text}
    (found : afterBlankLines? rest = some after) :
    ∃ piece, cutAtParagraphBreaks (line ++ '\n' :: rest) = piece :: cutAtParagraphBreaks after ∧
      Text.trimEnd piece = Text.trimEnd line := by
  induction line with
  | nil => exact ⟨[], cutAtParagraphBreaks_cons_of_some found, rfl⟩
  | cons c line inductionHypothesis =>
    have breakAt := afterParagraphBreak?_cons noFeed rest
    by_cases atReturn : c = '\r' ∧ line = []
    · rw [if_pos atReturn, found] at breakAt
      obtain ⟨rfl, rfl⟩ := atReturn
      exact ⟨[], cutAtParagraphBreaks_cons_of_some breakAt, rfl⟩
    · rw [if_neg atReturn] at breakAt
      obtain ⟨piece, cut, same⟩ :=
        inductionHypothesis (fun member => noFeed (List.mem_cons_of_mem c member))
      refine ⟨c :: piece, ?_, Text.trimEnd_append_congr same [c]⟩
      rw [List.cons_append, cutAtParagraphBreaks_cons_of_none breakAt, cut]
      rfl

/-- A text without a line feed is one piece. -/
theorem cutAtParagraphBreaks_of_noFeed (noFeed : '\n' ∉ line) : cutAtParagraphBreaks line = [line] := by
  induction line with
  | nil => rw [cutAtParagraphBreaks]
  | cons c line inductionHypothesis =>
    have noBreak : afterParagraphBreak? (c :: line) = none := by
      unfold afterParagraphBreak?
      split
      · rename_i same
        simp [same] at noFeed
      · rename_i same
        simp [same] at noFeed
      · rfl
    rw [cutAtParagraphBreaks_cons_of_none noBreak,
      inductionHypothesis (fun member => noFeed (List.mem_cons_of_mem c member))]
    rfl

/-- Blank lines are left out from the start of a text where it has a blank line and a line feed. -/
theorem exists_blank_of_afterBlankLines? {after : Text} (found : afterBlankLines? rest = some after) :
    ∃ blank others, rest = blank ++ '\n' :: others ∧ '\n' ∉ blank ∧ isBlankLine blank = true := by
  cases Text.isOnLines rest with
  | last noFeed =>
    rw [afterBlankLines?_of_noFeed noFeed] at found
    cases found
  | @cons blank others noFeed following =>
    refine ⟨blank, others, rfl, noFeed, ?_⟩
    rw [← Bool.not_eq_false]
    intro solid
    rw [afterBlankLines?_append_of_solid noFeed solid] at found
    cases found

end Breaks

section Trimming

/-- A piece loses the white space behind it first. -/
theorem trimPiece_eq (piece : Text) :
    trimPiece piece = (Text.trimEnd piece).dropWhile fun c => c == '\r' || c == '\n' := by
  refine Text.trimEnd_dropWhile (fun c lineEnd => ?_) piece
  simp only [Bool.or_eq_true, beq_iff_eq] at lineEnd
  obtain rfl | rfl := lineEnd <;> decide

/-- The white space behind a piece makes no difference. -/
theorem trimPiece_congr {piece other : Text} (same : Text.trimEnd piece = Text.trimEnd other) :
    trimPiece piece = trimPiece other := by
  rw [trimPiece_eq, trimPiece_eq, same]

/-- The candidates that some pieces are. -/
def candidatesOf (pieces : List Text) : List Text :=
  (pieces.map trimPiece).filter fun piece => !(Text.trim piece).isEmpty

/-- The paragraph candidates of a text are those of its pieces. -/
theorem paragraphCandidates_eq_candidatesOf (text : Text) :
    paragraphCandidates text = candidatesOf (cutAtParagraphBreaks text) := rfl

/-- A piece of white space is no candidate. -/
theorem candidatesOf_cons_of_blank {piece : Text} (blank : unspaced piece = []) (pieces : List Text) :
    candidatesOf (piece :: pieces) = candidatesOf pieces := by
  have nothing : Text.trim (trimPiece piece) = [] := by
    rw [Text.trim_eq_nil_iff, unspaced_trimPiece, blank]
  simp [candidatesOf, nothing]

/-- A piece with other characters is a candidate. -/
theorem candidatesOf_cons_of_solid {piece : Text} (solid : unspaced piece ≠ []) (pieces : List Text) :
    candidatesOf (piece :: pieces) = trimPiece piece :: candidatesOf pieces := by
  have something : Text.trim (trimPiece piece) ≠ [] := by
    rwa [Ne, Text.trim_eq_nil_iff, unspaced_trimPiece]
  simp [candidatesOf, something]

end Trimming

end ProseTree.Language
