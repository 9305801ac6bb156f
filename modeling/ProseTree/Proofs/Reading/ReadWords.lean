import Mathlib.Algebra.GroupWithZero.Nat
import ProseTree.Proofs.Language.WordGroups
import ProseTree.Proofs.Reading.TokenWords

/-!
# How many words are read

The words of a reading are counted on its text: those tokens are words that the word stage takes, in the
sentence candidates that start like a sentence and end in a terminator, of the paragraph candidates with an
indent. What else the reading makes of the text adds no word.
-/

namespace ProseTree.Reading

open ProseTree.Language (CharClass Grammar)
open ProseTree.Tree (Node)

variable {grammar : Grammar} {letters wordLetters : CharClass}

/-- Whether a token is a word, bare or with marks around it. -/
def isWordToken (grammar : Grammar) (token : Text) : Bool :=
  (wordNode? grammar token).isSome

/-- The number of words of a sentence candidate. -/
def sentenceWords (grammar : Grammar) (candidate : Text) : Nat :=
  match grammar.splitTerminator? (Text.trim candidate) with
  | some (body, _) =>
    if grammar.startsSentence (Text.trim candidate) then (Text.tokens body).countP (isWordToken grammar)
    else 0
  | none => 0

/-- The number of words of a paragraph candidate. -/
def paragraphWords (grammar : Grammar) (candidate : Text) : Nat :=
  match paragraphBody? grammar candidate with
  | some body => ((grammar.sentenceCandidates body).map (sentenceWords grammar)).sum
  | none => 0

/-- What is counted of the nodes of every placement is counted of all nodes. -/
theorem Placed.countAll_eq {read : Text → Except ParseError Outcome}
    {place : Text → Outcome → List Node × List Gap} {candidates : List Text} {nodes : List Node}
    {gaps : List Gap} {kind : Tree.Kind} {number : Text → Nat}
    (each : ∀ candidate ∈ candidates, ∀ outcome, read candidate = .ok outcome →
      Node.countAll kind (place candidate outcome).1 = number candidate)
    (placed : Placed read place candidates nodes gaps) :
    Node.countAll kind nodes = (candidates.map number).sum := by
  induction placed with
  | nil => rfl
  | cons known others inductionHypothesis =>
    obtain ⟨first, rest⟩ := List.forall_mem_cons.1 each
    rw [Node.countAll_append, first _ known, inductionHypothesis rest, List.map_cons, List.sum_cons]

/-- A number for each item that is chosen is the number of chosen items. -/
theorem sum_map_ite_eq_countP {α : Type} (chosen : α → Bool) (items : List α) :
    (items.map fun item => if chosen item then 1 else 0).sum = items.countP chosen := by
  induction items with
  | nil => rfl
  | cons item items inductionHypothesis =>
    rw [List.map_cons, List.sum_cons, List.countP_cons, inductionHypothesis, Nat.add_comm]

/-- Nothing is placed for a paragraph candidate that became no paragraph. -/
theorem placeParagraph_fst_eq_nil {candidate : Text} {outcome : Outcome}
    (other : ∀ children, outcome.node ≠ some (.paragraph children)) :
    (placeParagraph candidate outcome).1 = [] := by
  rw [List.eq_nil_iff_forall_not_mem]
  intro node member
  obtain ⟨children, gaps, -, rfl⟩ := exists_of_mem_placeParagraph member
  exact other children rfl

section Words

variable (classes : grammar.alphabet = .classes letters wordLetters)

include classes

/-- Nothing is no word. -/
theorem isWordToken_nil : isWordToken grammar [] = false := by
  have noWord : grammar.isWord [] = false := by
    rw [Bool.eq_false_iff]
    exact fun isWord => ((Grammar.isWord_iff classes).1 isWord).ne_nil rfl
  rw [Bool.eq_false_iff]
  intro found
  obtain ⟨built, found⟩ := Option.isSome_iff_exists.1 found
  obtain ⟨node, -, word⟩ := wordOutcome_of_wordNode? classes found
  generalize empty : ([] : Text) = text at word
  cases word with
  | word isWord =>
    rw [← empty, noWord] at isWord
    cases isWord
  | decorated spelling =>
    have isWord := spelling.isWord
    simp only [Language.WordSpelling.text, List.nil_eq, List.append_eq_nil_iff] at empty
    rw [empty.2.1, noWord] at isWord
    cases isWord

/-- A token is placed with one word, if it is a word, or with none. -/
theorem countAll_word_placeLexeme {token : Text} {outcome : Outcome} (isOne : isToken token = true)
    (known : (tokenChain grammar).read token = .ok outcome) :
    Node.countAll .word (placeLexeme token outcome).1 = if isWordToken grammar token then 1 else 0 := by
  obtain lost | ⟨children, gaps, rfl, -⟩ := placeLexeme_cases isOne (tokenOutcome_of_read classes known)
  · have noWord : isWordToken grammar token = false := by
      rw [Bool.eq_false_iff]
      intro found
      obtain ⟨built, found⟩ := Option.isSome_iff_exists.1 found
      obtain ⟨node, rfl, -⟩ := wordOutcome_of_wordNode? classes found
      rw [read_tokenChain_of_word isOne found] at known
      cases known
      cases congrArg Prod.fst lost
    rw [lost, noWord]
    rfl
  · have counted := countAll_word_of_read_tokenChain classes isOne known
    rw [isWordToken, ← counted]
    simp [placeLexeme, Node.countAll, Node.count]

/-- A sentence candidate is placed with its words. -/
theorem countAll_word_placeSentence {candidate : Text} {outcome : Outcome}
    (known : (sentenceChain grammar).read candidate = .ok outcome) :
    Node.countAll .word (placeSentence candidate outcome).1 = sentenceWords grammar candidate := by
  have read := sentenceOutcome_of_read classes known
  cases read with
  | @sentence children gaps parts =>
    cases parts with
    | @intro body mark symbol lexemes gaps starts split placed marked =>
      have words : Node.countAll .word lexemes = (Text.tokens body).countP (isWordToken grammar) := by
        refine (placed.countAll_eq fun token member outcome known => ?_).trans (sum_map_ite_eq_countP ..)
        exact countAll_word_placeLexeme classes (isToken_of_mem_tokens member) known
      rw [sentenceWords, split, starts]
      simpa [placeSentence, Node.countAll, Node.count, Node.countAll_append] using words
  | forwarded unfit token =>
    rw [placeSentence_of_ne token.ne_sentence, sentenceWords]
    obtain noStart | noMark := unfit
    · rw [noStart]
      split <;> rfl
    · rw [noMark]
      rfl

/-- A paragraph candidate is placed with the words of its sentence candidates. -/
theorem countAll_word_placeParagraph {candidate : Text} {outcome : Outcome}
    (known : (paragraphChain grammar).read candidate = .ok outcome) :
    Node.countAll .word (placeParagraph candidate outcome).1 = paragraphWords grammar candidate := by
  have inBody : ∀ {body : Text} {sentences : List Node} {gaps : List Gap},
      Placed (sentenceChain grammar).read placeSentence (grammar.sentenceCandidates body) sentences gaps →
        Node.countAll .word sentences =
          ((grammar.sentenceCandidates body).map (sentenceWords grammar)).sum :=
    fun placed => placed.countAll_eq fun _ _ _ known => countAll_word_placeSentence classes known
  have read := paragraphOutcome_of_read classes known
  cases read with
  | paragraph found nonempty placed =>
    rw [paragraphWords, found]
    simpa [placeParagraph, Node.countAll, Node.count] using inBody placed
  | barren found placed =>
    rw [paragraphWords, found, placeParagraph_fst_eq_nil (by simp)]
    exact inBody placed
  | forwarded missing sentence =>
    rw [paragraphWords, missing, placeParagraph_fst_eq_nil]
    · rfl
    · cases sentence with
      | sentence parts => simp
      | forwarded unfit token => exact token.ne_paragraph

/-- The words of a document that was read are those of its paragraph candidates. -/
theorem wordCount_of_readDocument {schedule : Schedule} {text : Text} {reading : Reading}
    (read : (standardChain grammar schedule).readDocument text = .ok reading) :
    reading.document.wordCount =
      ((Language.paragraphCandidates text).map (paragraphWords grammar)).sum :=
  (placed_of_readDocument read).countAll_eq fun _ _ _ known => countAll_word_placeParagraph classes known

end Words

end ProseTree.Reading
