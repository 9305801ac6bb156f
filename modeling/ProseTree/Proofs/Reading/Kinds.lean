import Mathlib.Data.Set.List
import ProseTree.Proofs.Reading.Outcomes
import ProseTree.Proofs.Reading.StageCases

/-!
# The kinds of nodes that stages make

Every stage makes nodes of its own kinds only; any other node that comes back from it was made behind it.
The outer stages take up nodes of one kind each. So the levels of a document that was read are in order
under every grammar, whatever its letters and words are: paragraphs below it, and below each of these at
least one sentence and nothing else.
-/

namespace ProseTree.Reading

open ProseTree.Language (Grammar)
open ProseTree.Tree (Kind Node Sentence)

variable {grammar : Grammar}

section Stages

/-- A node that comes back from the stage has one of these kinds, or the kind of a node from behind it. -/
def Stage.Makes (stage : Stage) (kinds : List Kind) : Prop :=
  ∀ (text : Text) (next : Next) (outcome : Outcome) (node : Node),
    stage.read text next = .ok outcome → outcome.node = some node →
      node.kind ∈ kinds ∨
        ∃ other below made, next.read other = .ok below ∧ below.node = some made ∧ made.kind = node.kind

/-- What holds of every node from behind the stage holds of the nodes that come back from it. -/
def Stage.Preserves (stage : Stage) (holds : Node → Prop) : Prop :=
  ∀ (text : Text) (next : Next) (outcome : Outcome) (node : Node),
    (∀ other below made, next.read other = .ok below → below.node = some made → holds made) →
      stage.read text next = .ok outcome → outcome.node = some node → holds node

/-- What all stages of a chain preserve holds of every node that the chain makes. -/
theorem Chain.forall_read {chain : Chain} {holds : Node → Prop}
    (each : ∀ stage ∈ chain, stage.Preserves holds) {text : Text} {outcome : Outcome} {node : Node}
    (read : chain.read text = .ok outcome) (found : outcome.node = some node) : holds node := by
  induction chain generalizing text outcome node with
  | nil =>
    cases read
    cases found
  | cons stage rest inductionHypothesis =>
    obtain ⟨preserves, behind⟩ := List.forall_mem_cons.1 each
    rw [Chain.read_cons] at read
    exact preserves text _ outcome node
      (fun other below made readBelow isMade => inductionHypothesis behind readBelow isMade) read found

/-- A stage makes no node of a kind that is not its own where there is none behind it. -/
theorem Stage.Makes.preserves {stage : Stage} {kinds : List Kind} {kind : Kind}
    (makes : stage.Makes kinds) (notOwn : kind ∉ kinds) :
    stage.Preserves fun node => node.kind ≠ kind := by
  intro text next outcome node behind read found
  obtain own | ⟨other, below, made, readBelow, isMade, same⟩ := makes text next outcome node read found
  · rintro rfl
    exact notOwn own
  · rw [← same]
    exact behind other below made readBelow isMade

variable {next : Next} {text : Text} {outcome : Outcome} {node : Node}

/-- A text that is handed on becomes what is made of it behind the stage. -/
theorem kind_of_forwarded {kinds : List Kind} (read : next.read text = .ok outcome)
    (found : outcome.node = some node) :
    node.kind ∈ kinds ∨
      ∃ other below made, next.read other = .ok below ∧ below.node = some made ∧ made.kind = node.kind :=
  .inr ⟨text, outcome, node, read, found, rfl⟩

theorem makes_sentenceStage (grammar : Grammar) : (sentenceStage grammar).Makes [.sentence] := by
  intro text next outcome node read found
  obtain handedOn | ⟨_, _, lexemes, _, symbol, -, -, -, -, rfl⟩ := cases_of_read_sentenceStage read
  · exact kind_of_forwarded handedOn found
  · cases found
    exact .inl (List.mem_singleton_self _)

theorem kind_wrapToken (token : Text) (node : Node) : (wrapToken token node).kind = .lexeme := by
  cases node <;> rfl

theorem makes_lexemeStage : lexemeStage.Makes [.lexeme] := by
  intro text next outcome node read found
  obtain handedOn | ⟨inner, -, -, rfl⟩ := cases_of_read_lexemeStage read
  · exact kind_of_forwarded handedOn found
  · obtain ⟨made, -, rfl⟩ := Option.map_eq_some_iff.1 found
    rw [kind_wrapToken]
    exact .inl (List.mem_singleton_self _)

theorem makes_wordStage (grammar : Grammar) : (wordStage grammar).Makes [.word, .lexeme] := by
  intro text next outcome node read found
  obtain handedOn | ⟨made, isWord, rfl⟩ := cases_of_read_wordStage read
  · exact kind_of_forwarded handedOn found
  · cases found
    left
    obtain rfl | ⟨before, after, word, rfl⟩ := cases_of_wordNode? isWord
    · exact List.mem_cons_self
    · exact List.mem_cons_of_mem _ (List.mem_singleton_self _)

theorem makes_expressionStage (grammar : Grammar) : (expressionStage grammar).Makes [.expression] := by
  intro text next outcome node read found
  obtain handedOn | ⟨value, -, -, rfl⟩ := cases_of_read_expressionStage read
  · exact kind_of_forwarded handedOn found
  · cases found
    exact .inl (List.mem_singleton_self _)

theorem makes_symbolStage (grammar : Grammar) : (symbolStage grammar).Makes [.symbol, .lexeme] := by
  intro text next outcome node read found
  obtain handedOn | ⟨-, made⟩ := cases_of_read_symbolStage read
  · exact kind_of_forwarded handedOn found
  · left
    obtain ⟨symbol, -, rfl⟩ | ⟨-, rfl⟩ := symbolOutcome?_eq_some made
    · cases found
      exact List.mem_cons_self
    · cases found
      exact List.mem_cons_of_mem _ (List.mem_singleton_self _)

end Stages

section Levels

/-- No stage behind the paragraph stage makes a paragraph. -/
theorem kind_ne_paragraph_of_read_sentenceChain {text : Text} {outcome : Outcome} {node : Node}
    (read : (sentenceChain grammar).read text = .ok outcome) (found : outcome.node = some node) :
    node.kind ≠ .paragraph := by
  have each : ∀ stage ∈ sentenceChain grammar, stage.Preserves fun node => node.kind ≠ .paragraph := by
    simp only [sentenceChain, tokenChain, coreChain, List.forall_mem_cons]
    exact ⟨(makes_sentenceStage grammar).preserves (by decide), makes_lexemeStage.preserves (by decide),
      (makes_wordStage grammar).preserves (by decide),
      (makes_expressionStage grammar).preserves (by decide),
      (makes_symbolStage grammar).preserves (by decide), by simp⟩
  exact Chain.forall_read each read found

/-- The children of a paragraph that the chain makes, at least one, are placed for the sentence candidates of
its body. -/
theorem exists_body_of_read_paragraphChain {text : Text} {children : List Node} {outcome : Outcome}
    (read : (paragraphChain grammar).read text = .ok outcome)
    (found : outcome.node = some (.paragraph children)) :
    children ≠ [] ∧ ∃ body, Placed (sentenceChain grammar).read placeSentence
      (grammar.sentenceCandidates body) children outcome.gaps := by
  rw [paragraphChain, Chain.read_cons] at read
  obtain handedOn | ⟨body, sentences, gaps, -, placed, rfl⟩ := cases_of_read_paragraphStage read
  · exact absurd rfl (kind_ne_paragraph_of_read_sentenceChain handedOn found)
  · dsimp only at found ⊢
    split at found
    · cases found
    · rename_i nonempty
      cases found
      exact ⟨by simpa using nonempty, body, placed⟩

/-- A paragraph of nothing but sentences, at least one. -/
def IsOfSentences (node : Node) : Prop :=
  ∃ sentences : List Sentence, sentences ≠ [] ∧ node = .paragraph (sentences.map Sentence.toNode)

/-- A paragraph that the chain makes consists of sentences. -/
theorem isOfSentences_of_read_paragraphChain {text : Text} {children : List Node} {outcome : Outcome}
    (read : (paragraphChain grammar).read text = .ok outcome)
    (found : outcome.node = some (.paragraph children)) : IsOfSentences (.paragraph children) := by
  obtain ⟨nonempty, body, placed⟩ := exists_body_of_read_paragraphChain read found
  have sentences : children ∈ Set.range (List.map Sentence.toNode) := by
    rw [Set.range_list_map]
    refine placed.forall_nodes fun candidate _ outcome _ node member => ?_
    obtain ⟨parts, gaps, rfl, -⟩ := exists_of_mem_placeSentence member
    exact ⟨⟨parts⟩, rfl⟩
  obtain ⟨sentences, rfl⟩ := sentences
  exact ⟨sentences, by simpa using nonempty, rfl⟩

/-- Below a document that was read stand paragraphs of sentences only. -/
theorem isOfSentences_of_readDocument {schedule : Schedule} {text : Text} {reading : Reading}
    (read : (standardChain grammar schedule).readDocument text = .ok reading) :
    ∀ node ∈ reading.document.children, IsOfSentences node := by
  refine (placed_of_readDocument read).forall_nodes fun candidate _ outcome known node member => ?_
  obtain ⟨children, gaps, rfl, rfl⟩ := exists_of_mem_placeParagraph member
  exact isOfSentences_of_read_paragraphChain known rfl

end Levels

end ProseTree.Reading
