import ProseTree.Proofs.Language.BuiltIn
import ProseTree.Proofs.Language.ParagraphBreaks
import ProseTree.Proofs.Language.Phrase
import ProseTree.Proofs.Language.Spans
import ProseTree.Proofs.Text.LineEnds

/-!
# Division and line ends

A text with a carriage return in front of every line feed is divided in the same places as the text without
them: at the same blank lines, behind the same indents and after the same sentence ends, with the returns
inside the pieces. This holds where indents have no line ends, and letters and what ends a sentence no white
space.
-/

namespace ProseTree.Language

open ProseTree.Text (withReturns withReturns_append withReturns_cons_of_ne withReturns_eq_self
  withReturns_feed_cons)

section Breaks

/-- Behind the last line feed a text has no returns. -/
theorem takeWhile_reverse_withReturns (text : Text) :
    (withReturns text).reverse.takeWhile (· != '\n') = text.reverse.takeWhile (· != '\n') := by
  have onLines := Text.isOnLines text
  induction onLines with
  | last noFeed => rw [withReturns_eq_self noFeed]
  | @cons line rest noFeed _ inductionHypothesis =>
    have withEnd : (withReturns (line ++ '\n' :: rest)).reverse =
        (withReturns rest).reverse ++ '\n' :: '\r' :: line.reverse := by
      rw [withReturns_append, withReturns_eq_self noFeed, withReturns_feed_cons]
      simp
    have without : (line ++ '\n' :: rest).reverse = rest.reverse ++ '\n' :: line.reverse := by simp
    rw [withEnd, without, Text.takeWhile_append_cons_of_neg rfl, Text.takeWhile_append_cons_of_neg rfl,
      inductionHypothesis]

/-- Returns add no line feed. -/
theorem contains_feed_withReturns (text : Text) :
    (withReturns text).contains '\n' = text.contains '\n' := by
  induction text with
  | nil => rfl
  | cons c rest inductionHypothesis =>
    by_cases isFeed : c = '\n'
    · simp [isFeed, withReturns_feed_cons]
    · rw [withReturns_cons_of_ne isFeed, List.contains_cons, List.contains_cons, inductionHypothesis]

/-- Blank lines with returns are blank lines. -/
theorem afterBlankLines?_withReturns (text : Text) :
    afterBlankLines? (withReturns text) = (afterBlankLines? text).map withReturns := by
  have alike : Text.isBlank '\r' = Text.isBlank '\n' := rfl
  simp only [afterBlankLines?, Text.takeWhile_withReturns alike, Text.dropWhile_withReturns alike,
    contains_feed_withReturns, takeWhile_reverse_withReturns]
  split
  · have noFeed : '\n' ∉ ((text.takeWhile Text.isBlank).reverse.takeWhile (· != '\n')).reverse := by
      intro member
      have other := List.all_eq_true.1 List.all_takeWhile _ (List.mem_reverse.1 member)
      simp at other
    rw [Option.map_some, withReturns_append, withReturns_eq_self noFeed]
  · rfl

/-- A paragraph break starts with a line end. -/
theorem afterParagraphBreak?_cons_of_ne {c : Char} (noReturn : c ≠ '\r') (noFeed : c ≠ '\n')
    (rest : Text) : afterParagraphBreak? (c :: rest) = none := by
  unfold afterParagraphBreak?
  split
  · rename_i same
    exact absurd (List.cons.inj same).1 noReturn
  · rename_i same
    exact absurd (List.cons.inj same).1 noFeed
  · rfl

/-- A character that is no line feed belongs to the first piece, with returns or without. -/
theorem extendFirst_map_withReturns {c : Char} (other : c ≠ '\n') (pieces : List Text) :
    extendFirst c (pieces.map withReturns) = (extendFirst c pieces).map withReturns := by
  cases pieces with
  | nil => simp [extendFirst, withReturns_cons_of_ne other]
  | cons piece pieces => simp [extendFirst, withReturns_cons_of_ne other]

/-- A line end belongs to the first piece like its line feed. -/
theorem extendFirst_feed_map_withReturns (pieces : List Text) :
    extendFirst '\r' (extendFirst '\n' (pieces.map withReturns)) =
      (extendFirst '\n' pieces).map withReturns := by
  cases pieces <;> rfl

/-- Paragraph breaks with returns are paragraph breaks. -/
theorem cutAtParagraphBreaks_withReturns {text : Text} (noReturn : '\r' ∉ text) :
    cutAtParagraphBreaks (withReturns text) = (cutAtParagraphBreaks text).map withReturns := by
  fun_induction cutAtParagraphBreaks text with
  | case1 =>
    rw [Text.withReturns_nil, cutAtParagraphBreaks]
    rfl
  | case2 c rest after found shorter inductionHypothesis =>
    have noneBehind : '\r' ∉ after := fun member =>
      noReturn ((afterParagraphBreak?_suffix found).subset member)
    have isFeed : c = '\n' := by
      refine Decidable.byContradiction fun other => ?_
      rw [afterParagraphBreak?_cons_of_ne (List.ne_of_not_mem_cons noReturn).symm other] at found
      cases found
    subst isFeed
    have foundWith : afterParagraphBreak? ('\r' :: '\n' :: withReturns rest) =
        some (withReturns after) := by
      change afterBlankLines? rest = some after at found
      change afterBlankLines? (withReturns rest) = some (withReturns after)
      rw [afterBlankLines?_withReturns, found]
      rfl
    rw [withReturns_feed_cons, cutAtParagraphBreaks_cons_of_some foundWith,
      inductionHypothesis noneBehind]
    rfl
  | case3 c rest missing inductionHypothesis =>
    have following := inductionHypothesis (List.not_mem_of_not_mem_cons noReturn)
    by_cases isFeed : c = '\n'
    · subst isFeed
      have missingWith : afterBlankLines? (withReturns rest) = none := by
        change afterBlankLines? rest = none at missing
        rw [afterBlankLines?_withReturns, missing]
        rfl
      have atReturn : afterParagraphBreak? ('\r' :: '\n' :: withReturns rest) = none := missingWith
      have atFeed : afterParagraphBreak? ('\n' :: withReturns rest) = none := missingWith
      rw [withReturns_feed_cons, cutAtParagraphBreaks_cons_of_none atReturn,
        cutAtParagraphBreaks_cons_of_none atFeed, following, extendFirst_feed_map_withReturns]
    · have noBreak := afterParagraphBreak?_cons_of_ne (List.ne_of_not_mem_cons noReturn).symm isFeed
      rw [withReturns_cons_of_ne isFeed, cutAtParagraphBreaks_cons_of_none (noBreak _), following,
        extendFirst_map_withReturns isFeed]

/-- Pieces with returns are trimmed like the pieces without them, and the same are kept. -/
theorem filter_map_withReturns {trim : Text → Text} {keep : Text → Bool}
    (trimmed : ∀ piece, trim (withReturns piece) = withReturns (trim piece))
    (kept : ∀ piece, keep (withReturns piece) = keep piece) (pieces : List Text) :
    ((pieces.map withReturns).map trim).filter keep =
      ((pieces.map trim).filter keep).map withReturns := by
  induction pieces with
  | nil => rfl
  | cons piece pieces inductionHypothesis =>
    simp only [List.map_cons, List.filter_cons, trimmed, kept, inductionHypothesis]
    split <;> rfl

/-- The paragraph candidates of a text get their returns like the text. -/
theorem paragraphCandidates_withReturns {text : Text} (noReturn : '\r' ∉ text) :
    paragraphCandidates (withReturns text) = (paragraphCandidates text).map withReturns := by
  have trimmed : ∀ piece, trimPiece (withReturns piece) = withReturns (trimPiece piece) := by
    intro piece
    rw [trimPiece, Text.dropWhile_withReturns rfl, Text.trimEnd_withReturns, trimPiece]
  rw [paragraphCandidates, cutAtParagraphBreaks_withReturns noReturn]
  exact filter_map_withReturns trimmed (fun piece => by simp) _

end Breaks

namespace Grammar

/-- Indent markers hold no line end. -/
def IndentsOnLine (grammar : Grammar) : Prop :=
  ∀ marker ∈ grammar.indentMarkers, '\r' ∉ marker ∧ '\n' ∉ marker

variable {grammar : Grammar}

/-- A text is unindented with its returns. -/
theorem unindented?_withReturns (onLine : grammar.IndentsOnLine) (candidate : Text) :
    grammar.unindented? (withReturns candidate) = (grammar.unindented? candidate).map withReturns := by
  have found : ∀ markers : List Text, (∀ marker ∈ markers, '\r' ∉ marker ∧ '\n' ∉ marker) →
      markers.findSome? (Text.dropBeginning? · (withReturns candidate)) =
        (markers.findSome? (Text.dropBeginning? · candidate)).map withReturns := by
    intro markers
    induction markers with
    | nil => exact fun _ => rfl
    | cons marker markers inductionHypothesis =>
      intro each
      obtain ⟨first, others⟩ := List.forall_mem_cons.1 each
      rw [List.findSome?_cons, List.findSome?_cons, Text.dropBeginning?_withReturns first,
        inductionHypothesis others]
      cases Text.dropBeginning? marker candidate <;> rfl
  rw [unindented?, unindented?, found grammar.indentMarkers onLine, Option.map_map, Option.map_map]
  congr 1
  funext body
  exact Text.trim_withReturns body

/-- White space at the start of a text is met with returns or without. -/
theorem startsBlank_withReturns (text : Text) : startsBlank (withReturns text) = startsBlank text := by
  cases text with
  | nil => rfl
  | cons c rest =>
    by_cases isFeed : c = '\n'
    · rw [isFeed]
      rfl
    · rw [withReturns_cons_of_ne isFeed]
      rfl

variable (apart : grammar.SetsMarksApart)

include apart

/-- A sentence starts in the same way with returns or without. -/
theorem startsSentence_withReturns (text : Text) :
    grammar.startsSentence (withReturns text) = grammar.startsSentence text := by
  cases text with
  | nil => rfl
  | cons c rest =>
    by_cases isFeed : c = '\n'
    · rw [isFeed, withReturns_feed_cons, startsSentence, startsSentence, apart.isLetter_eq_false rfl,
        apart.isLetter_eq_false rfl, Bool.and_false, Bool.and_false]
    · rw [withReturns_cons_of_ne isFeed]
      rfl

/-- A sentence ends with the same mark with returns or without. -/
theorem sentenceEnd?_withReturns (text : Text) :
    grammar.sentenceEnd? (withReturns text) =
      (grammar.sentenceEnd? text).map fun (mark, rest) => (mark, withReturns rest) := by
  have onLine : '\r' ∉ grammar.ellipsis ∧ '\n' ∉ grammar.ellipsis := by
    have noBlank := apart.noBlank (.inl rfl)
    constructor
    · intro member
      exact absurd (noBlank '\r' member) (by decide)
    · intro member
      exact absurd (noBlank '\n' member) (by decide)
  cases text with
  | nil =>
    rw [Text.withReturns_nil]
    cases found : grammar.sentenceEnd? [] with
    | none => rfl
    | some parts =>
      obtain ⟨mark, after⟩ := parts
      have shorter := grammar.length_sentenceEnd?_lt found
      simp at shorter
  | cons c rest =>
    by_cases isFeed : c = '\n'
    · rw [isFeed, withReturns_feed_cons, sentenceEnd?_eq_none_of_isBlank apart rfl,
        sentenceEnd?_eq_none_of_isBlank apart rfl]
      rfl
    · have dropped := Text.dropBeginning?_withReturns onLine (c :: rest)
      rw [withReturns_cons_of_ne isFeed] at dropped ⊢
      simp only [sentenceEnd?, dropped, startsBlank_withReturns]
      cases Text.dropBeginning? grammar.ellipsis (c :: rest) with
      | none =>
        simp only [Option.map_none]
        split <;> rfl
      | some after =>
        simp only [Option.map_some, startsBlank_withReturns]
        split
        · rfl
        · split <;> rfl

/-- A paragraph body is cut after the same sentence ends with returns or without. -/
theorem cutAfterSentences_withReturns (body : Text) :
    grammar.cutAfterSentences (withReturns body) = (grammar.cutAfterSentences body).map withReturns := by
  fun_induction grammar.cutAfterSentences body with
  | case1 =>
    rw [Text.withReturns_nil, cutAfterSentences]
    rfl
  | case2 c rest mark after found shorter inductionHypothesis =>
    have foundWith := sentenceEnd?_withReturns apart (c :: rest)
    obtain ⟨-, isMark, -⟩ := sentenceEnd?_eq_some found
    have stays := Text.withReturns_eq_self_of_noBlank (apart.noBlank isMark)
    have isOther : c ≠ '\n' := by
      rintro rfl
      rw [sentenceEnd?_eq_none_of_isBlank apart rfl] at found
      cases found
    rw [found, withReturns_cons_of_ne isOther] at foundWith
    rw [withReturns_cons_of_ne isOther, cutAfterSentences_cons_of_some foundWith,
      Text.dropWhile_withReturns rfl, inductionHypothesis, List.map_cons, stays]
  | case3 c rest missing inductionHypothesis =>
    by_cases isFeed : c = '\n'
    · rw [isFeed, withReturns_feed_cons,
        cutAfterSentences_cons_of_none (sentenceEnd?_eq_none_of_isBlank apart rfl _),
        cutAfterSentences_cons_of_none (sentenceEnd?_eq_none_of_isBlank apart rfl _), inductionHypothesis,
        extendFirst_feed_map_withReturns]
    · have missingWith := sentenceEnd?_withReturns apart (c :: rest)
      rw [missing, withReturns_cons_of_ne isFeed] at missingWith
      rw [withReturns_cons_of_ne isFeed, cutAfterSentences_cons_of_none missingWith,
        inductionHypothesis, extendFirst_map_withReturns isFeed]

/-- The sentence candidates of a paragraph body get their returns like the body. -/
theorem sentenceCandidates_withReturns (body : Text) :
    grammar.sentenceCandidates (withReturns body) =
      (grammar.sentenceCandidates body).map withReturns := by
  rw [sentenceCandidates, cutAfterSentences_withReturns apart]
  exact filter_map_withReturns Text.trim_withReturns (fun piece => by simp) _

/-- The same terminator is split off a sentence with returns or without. -/
theorem splitTerminator?_withReturns (sentence : Text) :
    grammar.splitTerminator? (withReturns sentence) =
      (grammar.splitTerminator? sentence).map fun (body, mark) => (withReturns body, mark) := by
  have dropped := Text.dropEnding?_withReturns (apart.noBlank (.inl rfl)) sentence
  simp only [splitTerminator?, dropped]
  cases Text.dropEnding? grammar.ellipsis sentence with
  | some body => simp
  | none =>
    obtain rfl | ⟨before, c, rfl⟩ := List.eq_nil_or_concat sentence
    · rfl
    · rw [List.concat_eq_append]
      by_cases isFeed : c = '\n'
      · have noTerminator : grammar.isTerminator '\n' = false := apart.isTerminator_eq_false rfl
        simp [isFeed, withReturns_feed_cons, noTerminator]
      · have final : withReturns (before ++ [c]) = withReturns before ++ [c] := by
          rw [withReturns_append, withReturns_cons_of_ne isFeed, Text.withReturns_nil]
        simp only [final, List.getLast?_concat, List.dropLast_concat, Option.map_none,
          Text.trimEnd_withReturns]
        split <;> rfl

end Grammar

/-- The indents of every built-in grammar stand on one line. -/
theorem BuiltIn.indentsOnLine {language : BuiltIn} {grammar : Grammar}
    (accepted : Grammar.ofConfiguration language.configuration = .ok grammar) :
    grammar.IndentsOnLine := by
  rw [Grammar.IndentsOnLine, BuiltIn.indentMarkers_eq accepted]
  decide

end ProseTree.Language
