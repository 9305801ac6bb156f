import ProseTree.Proofs.Arithmetic.Conversion
import ProseTree.Proofs.Reading.Placement
import ProseTree.Proofs.Reading.Token

/-!
# What a text becomes

For each outer stage, the outcomes that the chain from this stage on can have. A text always has one
of them, so a reading is never broken off, and the standard chain always gives a document.
-/

namespace ProseTree.Reading

open ProseTree.Arithmetic (exists_of_map_eq_ok)
open ProseTree.Language (CharClass Grammar)
open ProseTree.Tree (Node Symbol)

variable {grammar : Grammar} {letters wordLetters : CharClass}

/-- The stages that read a sentence. -/
def sentenceChain (grammar : Grammar) : Chain :=
  sentenceStage grammar :: tokenChain grammar

/-- The stages that read a paragraph. -/
def paragraphChain (grammar : Grammar) : Chain :=
  paragraphStage grammar :: sentenceChain grammar

/-- How a trimmed text becomes the children of a sentence. -/
inductive SentenceParts (grammar : Grammar) (sentence : Text) : List Node → List Gap → Prop
  | intro {body mark : Text} {symbol : Symbol} {lexemes : List Node} {gaps : List Gap}
      (starts : grammar.startsSentence sentence = true)
      (split : grammar.splitTerminator? sentence = some (body, mark))
      (placed : Placed (tokenChain grammar).read placeLexeme (Text.tokens body) lexemes gaps)
      (marked : Symbol.ofText grammar mark = .ok symbol) :
      SentenceParts grammar sentence (lexemes ++ [.symbol symbol]) gaps

/-- What the chain from the sentence stage on makes of a text. -/
inductive SentenceOutcome (grammar : Grammar) (text : Text) : Outcome → Prop
  | sentence {children : List Node} {gaps : List Gap}
      (parts : SentenceParts grammar (Text.trim text) children gaps) :
      SentenceOutcome grammar text ⟨some (.sentence children), gaps⟩
  | forwarded {outcome : Outcome}
      (unfit : grammar.startsSentence (Text.trim text) = false ∨
        grammar.splitTerminator? (Text.trim text) = none)
      (token : TokenOutcome grammar (Text.trim text) outcome) : SentenceOutcome grammar text outcome

/-- What the chain from the paragraph stage on makes of a text. A paragraph without sentences is no
node, but keeps its gaps. -/
inductive ParagraphOutcome (grammar : Grammar) (text : Text) : Outcome → Prop
  | paragraph {body : Text} {sentences : List Node} {gaps : List Gap}
      (found : paragraphBody? grammar text = some body) (nonempty : sentences ≠ [])
      (placed : Placed (sentenceChain grammar).read placeSentence (grammar.sentenceCandidates body)
        sentences gaps) :
      ParagraphOutcome grammar text ⟨some (.paragraph sentences), gaps⟩
  | barren {body : Text} {gaps : List Gap} (found : paragraphBody? grammar text = some body)
      (placed : Placed (sentenceChain grammar).read placeSentence (grammar.sentenceCandidates body)
        [] gaps) :
      ParagraphOutcome grammar text ⟨none, gaps⟩
  | forwarded {outcome : Outcome} (missing : paragraphBody? grammar text = none)
      (sentence : SentenceOutcome grammar text outcome) : ParagraphOutcome grammar text outcome

/-- A mark at the end of a sentence spells a symbol. -/
theorem exists_symbol_of_isMark {mark : Text} (isMark : grammar.IsMark mark) :
    ∃ symbol, Symbol.ofText grammar mark = .ok symbol := by
  obtain rfl | ⟨c, rfl, _⟩ := isMark
  · exact ⟨_, Symbol.ofText_ellipsis⟩
  · exact ⟨_, Symbol.ofText_singleton c⟩

/-- The sentence stage gives the sentence that it is the parts of. -/
theorem read_sentence_of_parts {text : Text} {children : List Node} {gaps : List Gap}
    (parts : SentenceParts grammar (Text.trim text) children gaps) :
    (sentenceChain grammar).read text = .ok ⟨some (.sentence children), gaps⟩ := by
  generalize sentence : Text.trim text = trimmed at parts
  cases parts with
  | intro starts split placed marked =>
    have collected := collect_eq_ok_iff.2 placed
    rw [sentenceChain, Chain.read_cons]
    simp only [sentenceStage, Chain.toNext, sentence, starts, if_true, split, collected,
      Node.symbolOfText, marked]
    rfl

/-- The chain from the sentence stage on always has an outcome. -/
theorem read_sentenceChain (classes : grammar.alphabet = .classes letters wordLetters) (text : Text) :
    ∃ outcome, (sentenceChain grammar).read text = .ok outcome ∧
      SentenceOutcome grammar text outcome := by
  obtain ⟨below, known, token⟩ := read_tokenChain classes (Text.trim text)
  cases starts : grammar.startsSentence (Text.trim text) with
  | false =>
    refine ⟨below, ?_, .forwarded (.inl starts) token⟩
    rw [sentenceChain, Chain.read_cons]
    simp only [sentenceStage, starts, Bool.false_eq_true, if_false, Chain.toNext, known]
  | true =>
    cases split : grammar.splitTerminator? (Text.trim text) with
    | none =>
      refine ⟨below, ?_, .forwarded (.inr split) token⟩
      rw [sentenceChain, Chain.read_cons]
      simp only [sentenceStage, starts, if_true, split, Chain.toNext, known]
    | some parts =>
      obtain ⟨body, mark⟩ := parts
      obtain ⟨lexemes, gaps, placed⟩ := Placed.exists_of_read placeLexeme (Text.tokens body)
        fun token _ => (read_tokenChain classes token).imp fun _ outcome => outcome.1
      obtain ⟨_, _, _, isMark, _⟩ := Language.Grammar.splitTerminator?_eq_some split
      obtain ⟨symbol, marked⟩ := exists_symbol_of_isMark isMark
      have parts := SentenceParts.intro starts split placed marked
      exact ⟨_, read_sentence_of_parts parts, .sentence parts⟩

/-- What was read from the sentence stage on is one of these outcomes. -/
theorem sentenceOutcome_of_read (classes : grammar.alphabet = .classes letters wordLetters)
    {text : Text} {outcome : Outcome} (known : (sentenceChain grammar).read text = .ok outcome) :
    SentenceOutcome grammar text outcome :=
  holds_of_read (read_sentenceChain classes text) known

/-- The paragraph stage gives the sentences of its body. -/
theorem read_paragraph_of_placed {text body : Text} {sentences : List Node} {gaps : List Gap}
    (found : paragraphBody? grammar text = some body)
    (placed : Placed (sentenceChain grammar).read placeSentence (grammar.sentenceCandidates body)
      sentences gaps) :
    (paragraphChain grammar).read text =
      .ok ⟨if sentences.isEmpty then none else some (.paragraph sentences), gaps⟩ := by
  have collected := collect_eq_ok_iff.2 placed
  rw [paragraphChain, Chain.read_cons]
  simp only [paragraphStage, found, Chain.toNext, collected]
  rfl

/-- The chain from the paragraph stage on always has an outcome. -/
theorem read_paragraphChain (classes : grammar.alphabet = .classes letters wordLetters)
    (text : Text) :
    ∃ outcome, (paragraphChain grammar).read text = .ok outcome ∧
      ParagraphOutcome grammar text outcome := by
  cases found : paragraphBody? grammar text with
  | none =>
    obtain ⟨outcome, known, sentence⟩ := read_sentenceChain classes text
    refine ⟨outcome, ?_, .forwarded found sentence⟩
    rw [paragraphChain, Chain.read_cons]
    simp only [paragraphStage, found, Chain.toNext, known]
  | some body =>
    obtain ⟨sentences, gaps, placed⟩ :=
      Placed.exists_of_read placeSentence (grammar.sentenceCandidates body)
        fun candidate _ => (read_sentenceChain classes candidate).imp fun _ outcome => outcome.1
    refine ⟨_, read_paragraph_of_placed found placed, ?_⟩
    cases sentences with
    | nil => exact .barren found placed
    | cons sentence others => exact .paragraph found (by simp) placed

/-- What was read from the paragraph stage on is one of these outcomes. -/
theorem paragraphOutcome_of_read (classes : grammar.alphabet = .classes letters wordLetters)
    {text : Text} {outcome : Outcome} (known : (paragraphChain grammar).read text = .ok outcome) :
    ParagraphOutcome grammar text outcome :=
  holds_of_read (read_paragraphChain classes text) known

/-- A text that no inner stage recognises leaves no gap. -/
theorem TokenOutcome.silent {text : Text} {outcome : Outcome}
    (token : TokenOutcome grammar text outcome) (missing : outcome.node = none) :
    outcome.gaps = [] := by
  cases token with
  | unrecognized _ => rfl
  | lexeme _ _ => cases missing
  | fragment _ _ => cases missing

/-- The inner stages make nodes of the inner kinds only. -/
theorem TokenOutcome.isInner {text : Text} {outcome : Outcome}
    (token : TokenOutcome grammar text outcome) {node : Node} (found : outcome.node = some node) :
    IsInner node := by
  cases token with
  | unrecognized _ => cases found
  | lexeme _ _ =>
    cases found
    simp [IsInner, Node.kind]
  | fragment _ inner =>
    cases found
    exact inner

/-- The inner stages make no sentence. -/
theorem TokenOutcome.ne_sentence {text : Text} {outcome : Outcome}
    (token : TokenOutcome grammar text outcome) (children : List Node) :
    outcome.node ≠ some (.sentence children) :=
  fun found => (token.isInner found).2.2 rfl

/-- The inner stages make no paragraph. -/
theorem TokenOutcome.ne_paragraph {text : Text} {outcome : Outcome}
    (token : TokenOutcome grammar text outcome) (children : List Node) :
    outcome.node ≠ some (.paragraph children) :=
  fun found => (token.isInner found).2.1 rfl

/-- A sentence candidate that is no sentence is a gap, behind the gaps that were left below it. -/
theorem placeSentence_of_ne {candidate : Text} {outcome : Outcome}
    (other : ∀ children, outcome.node ≠ some (.sentence children)) :
    placeSentence candidate outcome =
      ([], outcome.gaps ++ [misplaced paragraphName candidate outcome.node]) := by
  unfold placeSentence
  split
  · rename_i children sentence
    exact absurd sentence (other children)
  · rfl

/-- A paragraph candidate that is no paragraph is a gap, unless it is none and left gaps below it. -/
theorem placeParagraph_of_ne {candidate : Text} {outcome : Outcome}
    (other : ∀ children, outcome.node ≠ some (.paragraph children))
    (silent : outcome.node = none → outcome.gaps = []) :
    placeParagraph candidate outcome =
      ([], outcome.gaps ++ [misplaced documentName candidate outcome.node]) := by
  unfold placeParagraph
  split
  · rename_i children paragraph
    exact absurd paragraph (other children)
  · cases node : outcome.node with
    | none => simp [silent node]
    | some found => rfl

/-- A token becomes a lexeme that stands for it, or it is a gap. -/
theorem placeLexeme_cases {token : Text} {outcome : Outcome} (isOne : isToken token = true)
    (read : TokenOutcome grammar token outcome) :
    placeLexeme token outcome = ([], [⟨sentenceName, token, .unrecognized⟩]) ∨
      ∃ children gaps, outcome = ⟨some (.lexeme token children), gaps⟩ ∧
        TokenParts grammar token children gaps := by
  cases read with
  | unrecognized nothing => exact .inl rfl
  | lexeme _ parts => exact .inr ⟨_, _, rfl, parts⟩
  | fragment isNone inner => simp [isOne] at isNone

/-- What is placed for a token is the lexeme that the token became. -/
theorem exists_parts_of_mem_placeLexeme {token : Text} {outcome : Outcome} {node : Node}
    (isOne : isToken token = true) (read : TokenOutcome grammar token outcome)
    (member : node ∈ (placeLexeme token outcome).1) :
    ∃ children gaps, node = .lexeme token children ∧ TokenParts grammar token children gaps := by
  obtain lost | ⟨children, gaps, rfl, parts⟩ := placeLexeme_cases isOne read
  · rw [lost] at member
    cases member
  · exact ⟨children, gaps, List.mem_singleton.1 member, parts⟩

/-- A text that became a sentence has the parts of it. -/
theorem SentenceOutcome.parts {text : Text} {children : List Node} {gaps : List Gap}
    (read : SentenceOutcome grammar text ⟨some (.sentence children), gaps⟩) :
    SentenceParts grammar (Text.trim text) children gaps := by
  cases read with
  | sentence parts => exact parts
  | forwarded unfit token => exact absurd rfl (token.ne_sentence children)

/-- A text that became a paragraph has a body with the sentences of it, at least one. -/
theorem ParagraphOutcome.exists_body {text : Text} {sentences : List Node} {gaps : List Gap}
    (read : ParagraphOutcome grammar text ⟨some (.paragraph sentences), gaps⟩) :
    sentences ≠ [] ∧ ∃ body, paragraphBody? grammar text = some body ∧
      Placed (sentenceChain grammar).read placeSentence (grammar.sentenceCandidates body) sentences
        gaps := by
  cases read with
  | paragraph found nonempty placed => exact ⟨nonempty, _, found, placed⟩
  | forwarded missing sentence =>
    cases sentence with
    | forwarded unfit token => exact absurd rfl (token.ne_paragraph sentences)

/-- Placing paragraphs is collecting them. -/
theorem placeParagraphs_zip_map (read : Text → Except ParseError Outcome) (candidates : List Text) :
    placeParagraphs (candidates.zip (candidates.map read)) =
      collect (fun candidate => (read candidate).map (placeParagraph candidate)) candidates := by
  induction candidates with
  | nil => rfl
  | cons candidate candidates inductionHypothesis =>
    rw [collect, List.map_cons, List.zip_cons_cons]
    cases known : read candidate with
    | error cause => rfl
    | ok outcome =>
      rw [placeParagraphs, inductionHypothesis]
      rfl

/-- The standard chain collects the paragraphs of all candidates in one document, whatever the schedule. -/
theorem read_standardChain (schedule : Schedule) (text : Text) :
    (standardChain grammar schedule).read text =
      (collect (fun candidate => ((paragraphChain grammar).read candidate).map (placeParagraph candidate))
        (Language.paragraphCandidates text)).map fun (paragraphs, gaps) =>
          ⟨some (.document paragraphs), gaps⟩ := by
  change (documentStage schedule).read text (paragraphChain grammar).toNext = _
  simp only [documentStage, Schedule.map_eq, placeParagraphs_zip_map, Chain.toNext]

/-- Reading a document is collecting its paragraphs. -/
theorem readDocument_eq_collect (schedule : Schedule) (text : Text) :
    (standardChain grammar schedule).readDocument text =
      (collect (fun candidate => ((paragraphChain grammar).read candidate).map (placeParagraph candidate))
        (Language.paragraphCandidates text)).map fun (paragraphs, gaps) => ⟨⟨paragraphs⟩, gaps⟩ := by
  rw [Chain.readDocument, read_standardChain]
  cases collect (fun candidate => ((paragraphChain grammar).read candidate).map (placeParagraph candidate))
    (Language.paragraphCandidates text) <;> rfl

/-- The standard chain gives the document of the paragraphs that are placed. -/
theorem readDocument_of_placed {text : Text} {paragraphs : List Node} {gaps : List Gap}
    (schedule : Schedule)
    (placed : Placed (paragraphChain grammar).read placeParagraph
      (Language.paragraphCandidates text) paragraphs gaps) :
    (standardChain grammar schedule).readDocument text = .ok ⟨⟨paragraphs⟩, gaps⟩ := by
  rw [readDocument_eq_collect, collect_eq_ok_iff.2 placed]
  rfl

/-- The document that was read is one of paragraphs that are placed. -/
theorem placed_of_readDocument {schedule : Schedule} {text : Text} {reading : Reading}
    (read : (standardChain grammar schedule).readDocument text = .ok reading) :
    Placed (paragraphChain grammar).read placeParagraph (Language.paragraphCandidates text)
      reading.document.children reading.gaps := by
  rw [readDocument_eq_collect] at read
  obtain ⟨⟨paragraphs, gaps⟩, collected, rfl⟩ := exists_of_map_eq_ok read
  exact collect_eq_ok_iff.1 collected

/-- Every text is read into a document. -/
theorem exists_readDocument (classes : grammar.alphabet = .classes letters wordLetters)
    (schedule : Schedule) (text : Text) :
    ∃ paragraphs gaps,
      (standardChain grammar schedule).readDocument text = .ok ⟨⟨paragraphs⟩, gaps⟩ ∧
      Placed (paragraphChain grammar).read placeParagraph (Language.paragraphCandidates text)
        paragraphs gaps := by
  obtain ⟨paragraphs, gaps, placed⟩ := Placed.exists_of_read placeParagraph
    (Language.paragraphCandidates text)
    fun candidate _ => (read_paragraphChain classes candidate).imp fun _ outcome => outcome.1
  exact ⟨paragraphs, gaps, readDocument_of_placed schedule placed, placed⟩

end ProseTree.Reading
