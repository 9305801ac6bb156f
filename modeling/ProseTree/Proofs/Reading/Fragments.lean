import ProseTree.Proofs.Arithmetic.Conversion
import ProseTree.Proofs.Language.WordStart
import ProseTree.Proofs.Reading.Forwarding
import ProseTree.Proofs.Reading.Nesting
import ProseTree.Proofs.Text.Lines

/-!
# Fragments

A fragment is a text with white space in it that is no sentence. No stage behind the sentence stage takes it:
it is no token, and no word, with or without marks around it, holds white space. The one exception is an
expression, between whose numbers and operators white space may stand. So the stages around a fragment have
nothing to place and record it themselves, as unrecognised, or as an expression where none can stand. A
fragment with a letter in it is no expression.
-/

namespace ProseTree

namespace Text

/-- A text with white space between two characters that are none. -/
def HasInnerBlank (text : Text) : Prop :=
  ∃ before blank after, text = before ++ blank :: after ∧ isBlank blank = true ∧
    (∃ c ∈ before, isBlank c = false) ∧ ∃ c ∈ after, isBlank c = false

/-- White space between other characters is kept when a text is trimmed. -/
theorem HasInnerBlank.exists_mem_trim {text : Text} (inner : text.HasInnerBlank) :
    ∃ blank ∈ trim text, isBlank blank = true := by
  obtain ⟨before, blank, after, rfl, isCut, ⟨c, inBefore, solid⟩, d, inAfter, alsoSolid⟩ := inner
  have startKept : trimStart (before ++ blank :: after) = trimStart before ++ blank :: after := by
    have something : ¬ (before.dropWhile isBlank).isEmpty = true := by
      intro nothing
      have allBlank : unspaced before = [] := by
        rw [← unspaced_trimStart, trimStart, List.isEmpty_iff.1 nothing, unspaced_nil]
      rw [unspaced_eq_nil_iff.1 allBlank c inBefore] at solid
      cases solid
    rw [trimStart, List.dropWhile_append, if_neg something]
    rfl
  have endKept : trimEnd after ≠ [] := by
    intro nothing
    rw [trimEnd_eq_nil_iff.1 nothing d inAfter] at alsoSolid
    cases alsoSolid
  refine ⟨blank, ?_, isCut⟩
  rw [trim, startKept, ← List.singleton_append, ← List.append_assoc, trimEnd_append, if_neg endKept]
  simp

/-- What is no white space is kept when a text is trimmed. -/
theorem mem_trim {text : Text} {c : Char} (member : c ∈ text) (solid : isBlank c = false) :
    c ∈ trim text := by
  have kept : c ∈ unspaced text := List.mem_filter.2 ⟨member, by simp [solid]⟩
  rw [← unspaced_trim] at kept
  exact (List.mem_filter.1 kept).1

/-- A text with white space in it is more than one token. -/
theorem HasInnerBlank.not_isSolid_trim {text : Text} (inner : text.HasInnerBlank) :
    ¬ (trim text).IsSolid := by
  intro solid
  obtain ⟨blank, member, isCut⟩ := inner.exists_mem_trim
  rw [solid.noBlank blank member] at isCut
  cases isCut

end Text

namespace Reading

open ProseTree.Language (BuiltIn CharClass Grammar)
open ProseTree.Tree (Kind Node)

variable {grammar : Grammar} {letters wordLetters : CharClass} {text : Text} {node : Option Node}

/-- A text becomes this node, without gaps, from the sentence stage on, and the paragraph or the document of
which it is a candidate leaves it out for this reason. -/
structure LeftOut (grammar : Grammar) (schedule : Schedule) (text : Text) (node : Option Node)
    (reason : GapReason) : Prop where
  read : (standardChain grammar schedule).readFrom sentenceName text = .ok ⟨node, []⟩
  ofParagraph : ∀ paragraph body, paragraphBody? grammar paragraph = some body →
    text ∈ grammar.sentenceCandidates body →
      ∃ outcome, (standardChain grammar schedule).readFrom paragraphName paragraph = .ok outcome ∧
        ⟨paragraphName, text, reason⟩ ∈ outcome.gaps
  ofDocument : ∀ whole, text ∈ Language.paragraphCandidates whole → paragraphBody? grammar text = none →
    ∃ reading, (standardChain grammar schedule).readDocument whole = .ok reading ∧
      ⟨documentName, text, reason⟩ ∈ reading.gaps

section Enclosing

/-- A sentence candidate that became no sentence is left out of its paragraph. -/
theorem exists_gap_of_sentenceCandidate (classes : grammar.alphabet = .classes letters wordLetters)
    (read : (sentenceChain grammar).read text = .ok ⟨node, []⟩)
    (noSentence : ∀ children, node ≠ some (.sentence children)) {paragraph body : Text}
    (found : paragraphBody? grammar paragraph = some body)
    (member : text ∈ grammar.sentenceCandidates body) :
    ∃ outcome, (paragraphChain grammar).read paragraph = .ok outcome ∧
      misplaced paragraphName text node ∈ outcome.gaps := by
  obtain ⟨sentences, gaps, placed⟩ :=
    Placed.exists_of_read placeSentence (grammar.sentenceCandidates body)
      fun candidate _ => (read_sentenceChain classes candidate).imp fun _ outcome => outcome.1
  refine ⟨_, read_paragraph_of_placed found placed, placed.mem_gaps member read ?_⟩
  rw [placeSentence_of_ne noSentence]
  exact List.mem_append_right _ (List.mem_singleton_self _)

/-- A paragraph candidate without an indent that became no paragraph is left out of its document. -/
theorem exists_gap_of_paragraphCandidate (classes : grammar.alphabet = .classes letters wordLetters)
    (schedule : Schedule) (read : (sentenceChain grammar).read text = .ok ⟨node, []⟩)
    (noParagraph : ∀ children, node ≠ some (.paragraph children)) {whole : Text}
    (member : text ∈ Language.paragraphCandidates whole) (missing : paragraphBody? grammar text = none) :
    ∃ reading, (standardChain grammar schedule).readDocument whole = .ok reading ∧
      misplaced documentName text node ∈ reading.gaps := by
  obtain ⟨paragraphs, gaps, document, placed⟩ := exists_readDocument classes schedule whole
  rw [← read_paragraphChain_of_missing missing] at read
  refine ⟨_, document, placed.mem_gaps member read ?_⟩
  rw [placeParagraph_of_ne noParagraph fun _ => rfl]
  exact List.mem_append_right _ (List.mem_singleton_self _)

/-- What becomes no sentence and no paragraph is left out by the stages around it. -/
theorem LeftOut.of_read (classes : grammar.alphabet = .classes letters wordLetters) (schedule : Schedule)
    {reason : GapReason} (read : (sentenceChain grammar).read text = .ok ⟨node, []⟩)
    (noSentence : ∀ children, node ≠ some (.sentence children))
    (noParagraph : ∀ children, node ≠ some (.paragraph children))
    (isReason : ∀ stage, misplaced stage text node = ⟨stage, text, reason⟩) :
    LeftOut grammar schedule text node reason where
  read := read
  ofParagraph paragraph body found member := by
    rw [← isReason]
    exact exists_gap_of_sentenceCandidate classes read noSentence found member
  ofDocument whole member missing := by
    rw [← isReason]
    exact exists_gap_of_paragraphCandidate classes schedule read noParagraph member missing

end Enclosing

section Fragment

variable {language : BuiltIn}

/-- A fragment is no token, no word and no run of symbols. -/
theorem not_recognizes_trim (accepted : Grammar.ofConfiguration language.configuration = .ok grammar)
    (inner : text.HasInnerBlank) :
    ¬ Recognizes grammar (Text.trim text) .lexeme ∧ ¬ Recognizes grammar (Text.trim text) .word ∧
      ¬ Recognizes grammar (Text.trim text) .symbol := by
  have noToken := inner.not_isSolid_trim
  refine ⟨noToken, ?_, fun recognized => noToken recognized.1⟩
  rw [← wordNode?_eq_none_iff_not_recognizes, wordNode?_eq_none_iff accepted]
  intro word same
  obtain ⟨letters, wordLetters, apart⟩ := spellsApart accepted
  exact noToken (same ▸ word.isSolid_text apart.classes apart.tokens)

/-- A fragment without a value is recognised by no stage. -/
theorem read_fragment_of_noValue
    (accepted : Grammar.ofConfiguration language.configuration = .ok grammar)
    (inner : text.HasInnerBlank) (unfit : ¬ Recognizes grammar text .sentence)
    (noValue : ¬ HasValue grammar (Text.trim text)) :
    (sentenceChain grammar).read text = .ok .unrecognized := by
  obtain ⟨noToken, noWord, noSymbols⟩ := not_recognizes_trim accepted inner
  have missing : ∀ kind ∈ [Kind.lexeme, .word, .expression, .symbol],
      ¬ Recognizes grammar (Text.trim text) kind := by
    intro kind member
    simp only [List.mem_cons, List.not_mem_nil, or_false] at member
    obtain rfl | rfl | rfl | rfl := member
    · exact noToken
    · exact noWord
    · exact noValue
    · exact noSymbols
  calc (sentenceChain grammar).read text
      = (tokenChain grammar).read (Text.trim text) := (handsOn_sentenceStage unfit).read_cons _
    _ = Chain.read [] (Text.trim text) :=
      read_map_stageOf_append .sequential (Text.trim_trim text) missing []

/-- A fragment with a value is taken by the expression stage. -/
theorem read_fragment_of_value
    (accepted : Grammar.ofConfiguration language.configuration = .ok grammar)
    (inner : text.HasInnerBlank) (unfit : ¬ Recognizes grammar text .sentence)
    (isPlain : grammar.evaluator.isPlain (Text.trim text) = true) {value : Float}
    (evaluated : grammar.evaluator.value (Text.trim text) = .ok value) :
    (sentenceChain grammar).read text = .ok (.clean (.expression (Text.trim text) value)) := by
  obtain ⟨noToken, noWord, -⟩ := not_recognizes_trim accepted inner
  have missing : ∀ kind ∈ [Kind.lexeme, .word], ¬ Recognizes grammar (Text.trim text) kind := by
    intro kind member
    simp only [List.mem_cons, List.not_mem_nil, or_false] at member
    obtain rfl | rfl := member
    · exact noToken
    · exact noWord
  calc (sentenceChain grammar).read text
      = (tokenChain grammar).read (Text.trim text) := (handsOn_sentenceStage unfit).read_cons _
    _ = Chain.read [expressionStage grammar, symbolStage grammar] (Text.trim text) :=
      read_map_stageOf_append .sequential (Text.trim_trim text) missing _
    _ = _ := by
      rw [Chain.read_cons]
      simp only [expressionStage, isPlain, if_true, evaluated]

/-- A fragment is never placed below a sentence. Unless it is an expression with a value, the stages from the
sentence stage on make no node of it and leave no gap, and the paragraph or the document around it records it
as unrecognised; this holds for every fragment with a letter in it. White space may stand between the numbers
and the operators of an expression, so such a fragment becomes the expression, likewise without a gap, and is
recorded as an expression in the wrong place. -/
theorem leftOut_fragment (accepted : Grammar.ofConfiguration language.configuration = .ok grammar)
    (schedule : Schedule) (inner : text.HasInnerBlank) (unfit : ¬ Recognizes grammar text .sentence) :
    (¬ HasValue grammar (Text.trim text) → LeftOut grammar schedule text none .unrecognized) ∧
    (∀ value, grammar.evaluator.isPlain (Text.trim text) = true →
      grammar.evaluator.value (Text.trim text) = .ok value →
      LeftOut grammar schedule text (some (.expression (Text.trim text) value))
        (.unexpectedKind .expression)) ∧
    ((∃ c ∈ text, grammar.isLetter c = true) → ¬ HasValue grammar (Text.trim text)) := by
  obtain ⟨letters, wordLetters, classes⟩ := Grammar.exists_classes accepted language.hasPlainLetters
  refine ⟨fun noValue => ?_, fun value isPlain evaluated => ?_, ?_⟩
  · exact .of_read classes schedule (read_fragment_of_noValue accepted inner unfit noValue)
      (by simp) (by simp) fun _ => rfl
  · exact .of_read classes schedule (read_fragment_of_value accepted inner unfit isPlain evaluated)
      (by simp) (by simp) fun _ => rfl
  · rintro ⟨c, member, letter⟩ ⟨isPlain, -⟩
    have kept := Text.mem_trim member ((BuiltIn.setsMarksApart accepted).letter c letter)
    rw [BuiltIn.isPlain_eq_false_of_isLetter accepted kept letter] at isPlain
    cases isPlain

/-- An English sum with spaces in it starts no sentence and has a value. -/
theorem english_sum (accepted : Grammar.ofConfiguration .english = .ok grammar) :
    Text.HasInnerBlank "2 + 3" ∧ ¬ Recognizes grammar "2 + 3" .sentence ∧
      grammar.evaluator.isPlain "2 + 3" = true ∧ ∃ value, grammar.evaluator.value "2 + 3" = .ok value := by
  have noStart : grammar.startsSentence (Text.trim "2 + 3") = false :=
    Grammar.eq_of_computed accepted (fun grammar => grammar.startsSentence (Text.trim "2 + 3"))
      (by decide +kernel)
  have hasValue : (grammar.evaluator.value "2 + 3").toOption.map (fun _ => ()) = some () :=
    Grammar.eq_of_computed accepted
      (fun grammar => (grammar.evaluator.value "2 + 3").toOption.map fun _ => ()) (by decide +kernel)
  obtain ⟨value, evaluated, -⟩ := Arithmetic.exists_of_toOption_map_eq_some hasValue
  refine ⟨⟨"2 +".toList, ' ', ['3'], rfl, by decide, ⟨'2', by decide, by decide⟩, '3', by decide, by decide⟩,
    not_recognizes_of_noStart noStart, ?_, value, evaluated⟩
  exact Grammar.eq_of_computed accepted (fun grammar => grammar.evaluator.isPlain "2 + 3")
    (by decide +kernel)

/-- English words without a capital, and a sum with spaces in it. -/
theorem leftOut_fragment_english :
    ∃ grammar, Grammar.ofConfiguration .english = .ok grammar ∧
      LeftOut grammar .sequential "no capital here." none .unrecognized ∧
      ∃ value, LeftOut grammar .sequential "2 + 3" (some (.expression "2 + 3" value))
        (.unexpectedKind .expression) := by
  obtain ⟨grammar, accepted⟩ := BuiltIn.english.exists_ofConfiguration
  have spaced : Text.HasInnerBlank "no capital here." :=
    ⟨"no".toList, ' ', "capital here.".toList, rfl, by decide, ⟨'n', by decide, by decide⟩, 'c', by decide,
      by decide⟩
  have noStart : grammar.startsSentence (Text.trim "no capital here.") = false :=
    Grammar.eq_of_computed accepted
      (fun grammar => grammar.startsSentence (Text.trim "no capital here.")) (by decide +kernel)
  have letter : grammar.isLetter 'n' = true :=
    Grammar.eq_of_computed accepted (fun grammar => grammar.isLetter 'n') (by decide +kernel)
  obtain ⟨unrecognized, -, noValue⟩ :=
    leftOut_fragment accepted .sequential spaced (not_recognizes_of_noStart noStart)
  obtain ⟨alsoSpaced, unfit, isPlain, value, evaluated⟩ := english_sum accepted
  obtain ⟨-, taken, -⟩ := leftOut_fragment accepted .sequential alsoSpaced unfit
  exact ⟨grammar, accepted, unrecognized (noValue ⟨'n', by decide, letter⟩), value,
    taken value isPlain evaluated⟩

/-- The sum is a fragment of which something becomes. -/
theorem read_fragment_ne_unrecognized :
    ¬ ∀ (language : BuiltIn) (grammar : Grammar),
      Grammar.ofConfiguration language.configuration = .ok grammar →
      ∀ (schedule : Schedule) (text : Text), text.HasInnerBlank → ¬ Recognizes grammar text .sentence →
        (standardChain grammar schedule).readFrom sentenceName text = .ok .unrecognized := by
  intro nothing
  obtain ⟨grammar, accepted⟩ := BuiltIn.english.exists_ofConfiguration
  obtain ⟨spaced, unfit, isPlain, value, evaluated⟩ := english_sum accepted
  have read : (sentenceChain grammar).read "2 + 3" = .ok .unrecognized :=
    nothing .english grammar accepted .sequential "2 + 3" spaced unfit
  rw [read_fragment_of_value accepted spaced unfit isPlain evaluated] at read
  cases read

end Fragment

end Reading

end ProseTree
