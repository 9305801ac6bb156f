import ProseTree.Proofs.Language.Division
import ProseTree.Proofs.Text.Spans

/-!
# Candidates are spans

The first piece of a division starts where the text starts, and the other pieces are spans of what
follows it. So the paragraph candidates are spans of a text, and the sentence candidates are spans of a
paragraph body.
-/

namespace ProseTree.Language

open ProseTree.Text (Spans)

/-- The pieces that a text is cut into: the text starts with the first one, and the others are spans of
what follows. -/
def CutsInto (text : Text) (pieces : List Text) : Prop :=
  ∃ first others after, pieces = first :: others ∧ text = first ++ after ∧ Spans after others

namespace CutsInto

variable {text : Text} {pieces : List Text}

/-- The pieces that a text is cut into are spans of it. -/
theorem spans (cut : CutsInto text pieces) : Spans text pieces := by
  obtain ⟨first, others, after, rfl, rfl, behind⟩ := cut
  have whole : Spans ([] ++ (first ++ after)) (first :: others) := .cons behind
  exact whole

/-- A character in front of a text belongs to the first piece. -/
theorem extendFirst (c : Char) (cut : CutsInto text pieces) :
    CutsInto (c :: text) (Language.extendFirst c pieces) := by
  obtain ⟨first, others, after, rfl, rfl, behind⟩ := cut
  exact ⟨c :: first, others, after, rfl, rfl, behind⟩

end CutsInto

/-- What follows blank lines ends the text. -/
theorem afterBlankLines?_suffix {text rest : Text} (found : afterBlankLines? text = some rest) :
    rest <:+ text := by
  unfold afterBlankLines? at found
  dsimp only at found
  split at found
  · cases found
    have indent : ((text.takeWhile Text.isBlank).reverse.takeWhile (· != '\n')).reverse <:+
        text.takeWhile Text.isBlank := by
      rw [← List.reverse_prefix, List.reverse_reverse]
      exact List.takeWhile_prefix _
    obtain ⟨before, whole⟩ := indent
    refine ⟨before, ?_⟩
    rw [← List.append_assoc, whole, List.takeWhile_append_dropWhile]
  · cases found

/-- What follows a paragraph break ends the text. -/
theorem afterParagraphBreak?_suffix {text rest : Text} (found : afterParagraphBreak? text = some rest) :
    rest <:+ text := by
  unfold afterParagraphBreak? at found
  split at found
  · exact (afterBlankLines?_suffix found).trans ((List.suffix_cons _ _).trans (List.suffix_cons _ _))
  · exact (afterBlankLines?_suffix found).trans (List.suffix_cons _ _)
  · cases found

/-- A text is cut at its paragraph breaks. -/
theorem cutsInto_paragraphBreaks (text : Text) : CutsInto text (cutAtParagraphBreaks text) := by
  fun_induction cutAtParagraphBreaks text with
  | case1 => exact ⟨[], [], [], rfl, rfl, .nil⟩
  | case2 c rest after found shorter inductionHypothesis =>
    exact ⟨[], _, _, rfl, rfl,
      inductionHypothesis.spans.of_isInfix (afterParagraphBreak?_suffix found).isInfix⟩
  | case3 c rest missing inductionHypothesis => exact inductionHypothesis.extendFirst c

/-- A trimmed piece is a part of the piece. -/
theorem trimPiece_isInfix (piece : Text) : trimPiece piece <:+: piece := by
  obtain ⟨blank, whole, -⟩ := Text.exists_trimEnd_append (piece.dropWhile fun c => c == '\r' || c == '\n')
  have isPrefix : trimPiece piece <+: piece.dropWhile fun c => c == '\r' || c == '\n' :=
    ⟨blank, whole.symm⟩
  exact isPrefix.isInfix.trans (List.dropWhile_suffix _).isInfix

/-- The paragraph candidates are spans of the text. -/
theorem spans_paragraphCandidates (text : Text) : Spans text (paragraphCandidates text) :=
  ((cutsInto_paragraphBreaks text).spans.map fun piece _ => trimPiece_isInfix piece).sublist
    List.filter_sublist

namespace Grammar

variable {grammar : Grammar}

/-- A paragraph body is cut after its sentence ends. -/
theorem cutsInto_sentences (body : Text) : CutsInto body (grammar.cutAfterSentences body) := by
  fun_induction grammar.cutAfterSentences body with
  | case1 => exact ⟨[], [], [], rfl, rfl, .nil⟩
  | case2 c rest mark after found shorter inductionHypothesis =>
    exact ⟨mark, _, after, rfl, (sentenceEnd?_eq_some found).1,
      inductionHypothesis.spans.of_isInfix (List.dropWhile_suffix _).isInfix⟩
  | case3 c rest missing inductionHypothesis => exact inductionHypothesis.extendFirst c

/-- The sentence candidates are spans of the paragraph body. -/
theorem spans_sentenceCandidates (body : Text) : Spans body (grammar.sentenceCandidates body) :=
  ((cutsInto_sentences body).spans.map fun piece _ => Text.trim_isInfix piece).sublist
    List.filter_sublist

/-- The body of a sentence is a part of the sentence. -/
theorem isInfix_of_splitTerminator? {sentence body mark : Text}
    (split : grammar.splitTerminator? sentence = some (body, mark)) : body <:+: sentence := by
  obtain ⟨before, rfl, rfl, -, -⟩ := splitTerminator?_eq_some split
  obtain ⟨blank, whole, -⟩ := Text.exists_trimEnd_append before
  have isPrefix : Text.trimEnd before <+: before := ⟨blank, whole.symm⟩
  exact (isPrefix.trans (List.prefix_append before mark)).isInfix

/-- What follows an indent marker is a part of the candidate. -/
theorem isInfix_of_unindented? {candidate body : Text}
    (found : grammar.unindented? candidate = some body) : body <:+: candidate := by
  obtain ⟨rest, first, rfl⟩ := Option.map_eq_some_iff.1 found
  obtain ⟨marker, -, dropped⟩ := List.exists_of_findSome?_eq_some first
  rw [Text.dropBeginning?_eq_some_iff.1 dropped]
  exact (Text.trim_isInfix rest).trans (List.suffix_append marker rest).isInfix

end Grammar

end ProseTree.Language
