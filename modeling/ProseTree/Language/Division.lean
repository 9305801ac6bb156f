import ProseTree.Language.Grammar

/-!
# Division of texts

A text is divided at blank lines into paragraph candidates, and the body of a paragraph after its
sentence ends into sentence candidates. A paragraph candidate may start with an indent marker, a
sentence candidate may end with a terminator; an ellipsis is one terminator.
-/

namespace ProseTree.Language

/-- What follows the last line feed of the white space at the start of a text, if that white space
has a line feed. -/
def afterBlankLines? (text : Text) : Option Text :=
  let blank := text.takeWhile Text.isBlank
  if blank.contains '\n' then
    some ((blank.reverse.takeWhile (· != '\n')).reverse ++ text.dropWhile Text.isBlank)
  else none

/-- What follows the paragraph break at the start of a text: the end of a line and at least one
line of white space after it. -/
def afterParagraphBreak? : Text → Option Text
  | '\r' :: '\n' :: rest => afterBlankLines? rest
  | '\n' :: rest => afterBlankLines? rest
  | _ => none

/-- What follows blank lines is no longer than the text. -/
theorem length_afterBlankLines?_le {text rest : Text} (found : afterBlankLines? text = some rest) :
    rest.length ≤ text.length := by
  unfold afterBlankLines? at found
  dsimp only at found
  split at found
  · cases found
    have shorter : ((text.takeWhile Text.isBlank).reverse.takeWhile (· != '\n')).length ≤
        (text.takeWhile Text.isBlank).length := by
      simpa using (List.takeWhile_prefix (· != '\n')
        (l := (text.takeWhile Text.isBlank).reverse)).length_le
    have whole := congrArg List.length (List.takeWhile_append_dropWhile (p := Text.isBlank) (l := text))
    simp only [List.length_append, List.length_reverse] at whole shorter ⊢
    omega
  · cases found

/-- What follows a paragraph break is shorter than the text. -/
theorem length_afterParagraphBreak?_lt {text rest : Text}
    (found : afterParagraphBreak? text = some rest) : rest.length < text.length := by
  unfold afterParagraphBreak? at found
  split at found
  · have := length_afterBlankLines?_le found
    simp only [List.length_cons]
    omega
  · have := length_afterBlankLines?_le found
    simp only [List.length_cons]
    omega
  · cases found

/-- Puts a character in front of the first piece. -/
def extendFirst (c : Char) : List Text → List Text
  | [] => [[c]]
  | piece :: pieces => (c :: piece) :: pieces

/-- The pieces of a text between its paragraph breaks. -/
def cutAtParagraphBreaks (text : Text) : List Text :=
  match text with
  | [] => [[]]
  | c :: rest =>
    match found : afterParagraphBreak? (c :: rest) with
    | some after =>
      have := length_afterParagraphBreak?_lt found
      [] :: cutAtParagraphBreaks after
    | none => extendFirst c (cutAtParagraphBreaks rest)
termination_by text.length
decreasing_by all_goals (simp only [List.length_cons] at *; omega)

/-- A piece without line ends before it and white space after it. -/
def trimPiece (piece : Text) : Text :=
  Text.trimEnd (piece.dropWhile fun c => c == '\r' || c == '\n')

/-- The paragraph candidates of a text, each with its indent. -/
def paragraphCandidates (text : Text) : List Text :=
  ((cutAtParagraphBreaks text).map trimPiece).filter fun piece => !(Text.trim piece).isEmpty

namespace Grammar

variable (grammar : Grammar)

/-- The body of a candidate after the first indent marker that it starts with. -/
def unindented? (candidate : Text) : Option Text :=
  (grammar.indentMarkers.findSome? (Text.dropBeginning? · candidate)).map Text.trim

/-- Whether a text starts with white space. -/
def startsBlank (text : Text) : Bool :=
  (text.head?.map Text.isBlank).getD false

/-- The terminator at the start of a text that ends a sentence, and the white space and all else
after it: an ellipsis or a terminator character with white space behind it. -/
def sentenceEnd? (text : Text) : Option (Text × Text) :=
  let single :=
    match text with
    | [] => none
    | c :: rest => if grammar.isTerminator c && startsBlank rest then some ([c], rest) else none
  match Text.dropBeginning? grammar.ellipsis text with
  | some rest => if startsBlank rest then some (grammar.ellipsis, rest) else single
  | none => single

/-- What stands after a sentence end is shorter than the text. -/
theorem length_sentenceEnd?_lt {text mark rest : Text}
    (found : grammar.sentenceEnd? text = some (mark, rest)) : rest.length < text.length := by
  unfold sentenceEnd? at found
  dsimp only at found
  split at found
  · rename_i after dropped
    have whole := Text.length_of_dropBeginning? dropped
    have positive := List.length_pos_iff.2 grammar.ellipsis_ne_nil
    split at found
    · cases found
      omega
    · split at found
      · cases found
      · split at found
        · cases found
          simp
        · cases found
  · split at found
    · cases found
    · split at found
      · cases found
        simp
      · cases found

/-- The pieces of a paragraph body, cut after its sentence ends. -/
def cutAfterSentences (text : Text) : List Text :=
  match text with
  | [] => [[]]
  | c :: rest =>
    match found : grammar.sentenceEnd? (c :: rest) with
    | some (mark, after) =>
      have : (after.dropWhile Text.isBlank).length < (c :: rest).length :=
        Nat.lt_of_le_of_lt (List.dropWhile_suffix _).length_le (grammar.length_sentenceEnd?_lt found)
      mark :: cutAfterSentences (after.dropWhile Text.isBlank)
    | none => extendFirst c (cutAfterSentences rest)
termination_by text.length
decreasing_by all_goals (simp only [List.length_cons] at *; omega)

/-- The sentence candidates of a paragraph body. -/
def sentenceCandidates (body : Text) : List Text :=
  ((grammar.cutAfterSentences body).map Text.trim).filter fun piece => !piece.isEmpty

/-- The body of a sentence and its terminator, the ellipsis before a single character. -/
def splitTerminator? (sentence : Text) : Option (Text × Text) :=
  match Text.dropEnding? grammar.ellipsis sentence with
  | some body => some (Text.trimEnd body, grammar.ellipsis)
  | none =>
    match sentence.getLast? with
    | some mark =>
      if grammar.isTerminator mark then some (Text.trimEnd sentence.dropLast, [mark]) else none
    | none => none

end Grammar

end ProseTree.Language
