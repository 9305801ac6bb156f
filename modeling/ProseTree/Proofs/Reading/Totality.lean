import ProseTree.Proofs.Language.BuiltIn
import ProseTree.Proofs.Reading.Outcomes

/-!
# Readings are never broken off

Leaves are checked again where a stage builds them: the words and marks that the patterns of the word
stage captured, and the mark at the end of a sentence. None of these checks ever fails, whatever stands
behind the stage, and so no chain of stages fails, in whatever order they are and however often one of
them occurs.
-/

namespace ProseTree.Reading

open ProseTree.Language (BuiltIn CharClass ClassTables Configuration Grammar)
open ProseTree.Tree (Node)

variable {grammar : Grammar} {letters wordLetters : CharClass}

/-- The seven stages of a grammar, the document stage with any schedule. -/
inductive IsStage (grammar : Grammar) : Stage → Prop
  | document (schedule : Schedule) : IsStage grammar (documentStage schedule)
  | paragraph : IsStage grammar (paragraphStage grammar)
  | sentence : IsStage grammar (sentenceStage grammar)
  | lexeme : IsStage grammar lexemeStage
  | word : IsStage grammar (wordStage grammar)
  | expression : IsStage grammar (expressionStage grammar)
  | symbol : IsStage grammar (symbolStage grammar)

/-- What stands behind a stage has an outcome for every text. -/
def Next.Succeeds (next : Next) : Prop :=
  ∀ text, ∃ outcome, next.read text = .ok outcome

/-- A stage has an outcome for every text as long as what stands behind it has one. -/
def Stage.Succeeds (stage : Stage) : Prop :=
  ∀ (text : Text) (next : Next), next.Succeeds → ∃ outcome, stage.read text next = .ok outcome

section Stages

variable {next : Next}

/-- Candidates are collected as long as each of them has an outcome. -/
theorem Next.Succeeds.exists_collect (succeeds : next.Succeeds)
    (place : Text → Outcome → List Node × List Gap) (candidates : List Text) :
    ∃ placed, collect (fun candidate => (next.read candidate).map (place candidate)) candidates =
      .ok placed := by
  obtain ⟨nodes, gaps, placed⟩ :=
    Placed.exists_of_read place candidates fun candidate _ => succeeds candidate
  exact ⟨_, collect_eq_ok_iff.2 placed⟩

theorem succeeds_documentStage (schedule : Schedule) : (documentStage schedule).Succeeds := by
  intro text next succeeds
  obtain ⟨placed, collected⟩ :=
    succeeds.exists_collect placeParagraph (Language.paragraphCandidates text)
  simp only [documentStage, Schedule.map_eq, placeParagraphs_zip_map, collected]
  exact ⟨_, rfl⟩

theorem succeeds_paragraphStage (grammar : Grammar) : (paragraphStage grammar).Succeeds := by
  intro text next succeeds
  simp only [paragraphStage]
  cases paragraphBody? grammar text with
  | none => exact succeeds text
  | some body =>
    obtain ⟨placed, collected⟩ := succeeds.exists_collect placeSentence (grammar.sentenceCandidates body)
    simp only [collected]
    exact ⟨_, rfl⟩

/-- The mark at the end of a sentence is always a symbol. -/
theorem exists_symbol_of_splitTerminator? {sentence body mark : Text}
    (split : grammar.splitTerminator? sentence = some (body, mark)) :
    ∃ symbol, Node.symbolOfText grammar mark = .ok symbol := by
  obtain ⟨_, _, _, isMark, _⟩ := Grammar.splitTerminator?_eq_some split
  obtain ⟨symbol, marked⟩ := exists_symbol_of_isMark isMark
  exact ⟨.symbol symbol, by rw [Node.symbolOfText, marked]; rfl⟩

theorem succeeds_sentenceStage (grammar : Grammar) : (sentenceStage grammar).Succeeds := by
  intro text next succeeds
  simp only [sentenceStage]
  split
  · cases split : grammar.splitTerminator? (Text.trim text) with
    | none => exact succeeds (Text.trim text)
    | some parts =>
      obtain ⟨body, mark⟩ := parts
      obtain ⟨placed, collected⟩ := succeeds.exists_collect placeLexeme (Text.tokens body)
      obtain ⟨symbol, marked⟩ := exists_symbol_of_splitTerminator? split
      simp only [collected, marked]
      exact ⟨_, rfl⟩
  · exact succeeds (Text.trim text)

theorem succeeds_lexemeStage : lexemeStage.Succeeds := by
  intro text next succeeds
  obtain ⟨outcome, read⟩ := succeeds text
  simp only [lexemeStage, read]
  split <;> exact ⟨_, rfl⟩

/-- The patterns of the word stage capture words and marks only, so that its checks never fail. -/
theorem succeeds_wordStage (classes : grammar.alphabet = .classes letters wordLetters) :
    (wordStage grammar).Succeeds := by
  intro text next succeeds
  simp only [wordStage]
  cases found : wordNode? grammar text with
  | none => exact succeeds text
  | some built =>
    obtain ⟨node, rfl, -⟩ := wordOutcome_of_wordNode? classes found
    exact ⟨_, rfl⟩

theorem succeeds_expressionStage (grammar : Grammar) : (expressionStage grammar).Succeeds := by
  intro text next succeeds
  simp only [expressionStage]
  split
  · split
    · exact ⟨_, rfl⟩
    · exact succeeds text
  · exact succeeds text

theorem succeeds_symbolStage (grammar : Grammar) : (symbolStage grammar).Succeeds := by
  intro text next succeeds
  simp only [symbolStage]
  split
  · split
    · exact ⟨_, rfl⟩
    · exact succeeds text
  · exact succeeds text

/-- Each of the seven stages has an outcome for every text. -/
theorem IsStage.succeeds (classes : grammar.alphabet = .classes letters wordLetters) {stage : Stage}
    (isStage : IsStage grammar stage) : stage.Succeeds := by
  cases isStage with
  | document schedule => exact succeeds_documentStage schedule
  | paragraph => exact succeeds_paragraphStage grammar
  | sentence => exact succeeds_sentenceStage grammar
  | lexeme => exact succeeds_lexemeStage
  | word => exact succeeds_wordStage classes
  | expression => exact succeeds_expressionStage grammar
  | symbol => exact succeeds_symbolStage grammar

end Stages

section Chains

variable {chain : Chain}

/-- A chain of stages that have outcomes has one. -/
theorem Chain.exists_read (succeeds : ∀ stage ∈ chain, stage.Succeeds) (text : Text) :
    ∃ outcome, chain.read text = .ok outcome := by
  induction chain generalizing text with
  | nil => exact ⟨_, rfl⟩
  | cons stage rest inductionHypothesis =>
    obtain ⟨first, others⟩ := List.forall_mem_cons.1 succeeds
    exact first text (Chain.toNext rest) fun text => inductionHypothesis others text

/-- So has its part from the first stage of some name. -/
theorem Chain.exists_readFrom (succeeds : ∀ stage ∈ chain, stage.Succeeds) (name text : Text) :
    ∃ outcome, chain.readFrom name text = .ok outcome :=
  Chain.exists_read (fun stage member => succeeds stage ((List.dropWhile_suffix _).mem member)) text

/-- Reading is never broken off: with an accepted grammar of plain letters, no check of a leaf fails, every
chain of the seven stages has an outcome for every text, from whatever stage on it is read, and the
standard chain always gives a document. -/
theorem exists_read_of_isStage [ClassTables] {configuration : Configuration} {grammar : Grammar}
    (accepted : Grammar.ofConfiguration configuration = .ok grammar)
    (plain : configuration.HasPlainLetters) (text : Text) :
    (∀ chain : Chain, (∀ stage ∈ chain, IsStage grammar stage) →
      (∃ outcome, chain.read text = .ok outcome) ∧
        ∀ name, ∃ outcome, chain.readFrom name text = .ok outcome) ∧
    (∀ built, wordNode? grammar text = some built → ∃ node, built = .ok node) ∧
    (∀ body mark, grammar.splitTerminator? text = some (body, mark) →
      ∃ symbol, Node.symbolOfText grammar mark = .ok symbol) ∧
    ∀ schedule, ∃ paragraphs gaps,
      (standardChain grammar schedule).read text = .ok ⟨some (.document paragraphs), gaps⟩ := by
  obtain ⟨letters, wordLetters, classes⟩ := Grammar.exists_classes accepted plain
  refine ⟨fun chain stages => ?_, fun built found => ?_,
    fun body mark split => exists_symbol_of_splitTerminator? split, fun schedule => ?_⟩
  · have succeeds : ∀ stage ∈ chain, stage.Succeeds :=
      fun stage member => (stages stage member).succeeds classes
    exact ⟨Chain.exists_read succeeds text, fun name => Chain.exists_readFrom succeeds name text⟩
  · obtain ⟨node, same, -⟩ := wordOutcome_of_wordNode? classes found
    exact ⟨node, same⟩
  · have readable : (paragraphChain grammar).toNext.Succeeds :=
      fun candidate => (read_paragraphChain classes candidate).imp fun _ outcome => outcome.1
    obtain ⟨⟨paragraphs, gaps⟩, collected⟩ :=
      readable.exists_collect placeParagraph (Language.paragraphCandidates text)
    simp only [Chain.toNext] at collected
    rw [read_standardChain, collected]
    exact ⟨paragraphs, gaps, rfl⟩

/-- English stages out of order and repeated, the standard order, and a start in the middle. -/
theorem exists_read_of_isStage_english :
    ∃ grammar, Grammar.ofConfiguration .english = .ok grammar ∧
      (∃ outcome, Chain.read [symbolStage grammar, wordStage grammar, documentStage {}, wordStage grammar,
        sentenceStage grammar] "Wait for (it)..." = .ok outcome) ∧
      (∃ outcome, Chain.readFrom [symbolStage grammar, sentenceStage grammar, wordStage grammar]
        sentenceName "Wait for (it)..." = .ok outcome) ∧
      ∃ paragraphs gaps, (standardChain grammar {}).read "Wait for (it)..." =
        .ok ⟨some (.document paragraphs), gaps⟩ := by
  obtain ⟨grammar, accepted⟩ := BuiltIn.english.exists_ofConfiguration
  obtain ⟨chains, -, -, document⟩ :=
    exists_read_of_isStage accepted BuiltIn.english.hasPlainLetters "Wait for (it)..."
  refine ⟨grammar, accepted, (chains _ ?_).1, (chains _ ?_).2 sentenceName, document {}⟩
  · simp [IsStage.symbol, IsStage.word, IsStage.document, IsStage.sentence]
  · simp [IsStage.symbol, IsStage.sentence, IsStage.word]

end Chains

end ProseTree.Reading
