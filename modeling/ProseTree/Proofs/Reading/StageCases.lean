import ProseTree.Proofs.Arithmetic.Conversion
import ProseTree.Proofs.Language.Accepted
import ProseTree.Proofs.Reading.Token
import ProseTree.Proofs.Reading.Placement

/-!
# What a stage does with a text

A stage hands a text on, or it makes something of the text itself. What it can make is said here once for
every stage, for any grammar and whatever stands behind the stage, so that a property of all outcomes is
shown of these cases and not of the code of the stages.
-/

namespace ProseTree.Reading

open ProseTree.Arithmetic (exists_of_map_eq_ok)
open ProseTree.Language (DecoratedWord Grammar bind_eq_ok_iff)
open ProseTree.Tree (Node Symbol)

variable {grammar : Grammar} {next : Next} {text : Text} {outcome : Outcome}

/-- The paragraph stage hands on a text without a body, and makes a paragraph of the sentences of a body. -/
theorem cases_of_read_paragraphStage (read : (paragraphStage grammar).read text next = .ok outcome) :
    next.read text = .ok outcome ∨
      ∃ body sentences gaps, paragraphBody? grammar text = some body ∧
        Placed next.read placeSentence (grammar.sentenceCandidates body) sentences gaps ∧
        outcome = ⟨if sentences.isEmpty then none else some (.paragraph sentences), gaps⟩ := by
  simp only [paragraphStage] at read
  split at read
  · exact .inl read
  · rename_i body found
    obtain ⟨⟨sentences, gaps⟩, collected, rfl⟩ := exists_of_map_eq_ok read
    exact .inr ⟨body, sentences, gaps, found, collect_eq_ok_iff.1 collected, rfl⟩

/-- The sentence stage hands on the trimmed text, or makes a sentence of what is placed for its tokens and of
its mark. -/
theorem cases_of_read_sentenceStage (read : (sentenceStage grammar).read text next = .ok outcome) :
    next.read (Text.trim text) = .ok outcome ∨
      ∃ body mark lexemes gaps symbol, grammar.startsSentence (Text.trim text) = true ∧
        grammar.splitTerminator? (Text.trim text) = some (body, mark) ∧
        Placed next.read placeLexeme (Text.tokens body) lexemes gaps ∧
        Symbol.ofText grammar mark = .ok symbol ∧
        outcome = ⟨some (.sentence (lexemes ++ [.symbol symbol])), gaps⟩ := by
  simp only [sentenceStage] at read
  split at read
  · rename_i starts
    split at read
    · exact .inl read
    · rename_i body mark split
      split at read
      · cases read
      · rename_i lexemes gaps collected
        split at read
        · cases read
        · rename_i node isSymbol
          obtain ⟨symbol, marked, rfl⟩ := exists_of_map_eq_ok isSymbol
          cases read
          have placed := collect_eq_ok_iff.1 collected
          exact .inr ⟨body, mark, lexemes, gaps, symbol, starts, split, placed, marked, rfl⟩
  · exact .inl read

/-- The lexeme stage hands on what is no token, and wraps what comes back of a token. -/
theorem cases_of_read_lexemeStage (read : lexemeStage.read text next = .ok outcome) :
    next.read text = .ok outcome ∨
      ∃ inner, isToken text = true ∧ next.read text = .ok inner ∧
        outcome = { inner with node := inner.node.map (wrapToken text) } := by
  simp only [lexemeStage] at read
  split at read
  · rename_i isOne
    obtain ⟨inner, known, rfl⟩ := exists_of_map_eq_ok read
    exact .inr ⟨inner, isOne, known, rfl⟩
  · exact .inl read

/-- The word stage hands on a text, or takes it for the node that it found. -/
theorem cases_of_read_wordStage (read : (wordStage grammar).read text next = .ok outcome) :
    next.read text = .ok outcome ∨
      ∃ node, wordNode? grammar text = some (.ok node) ∧ outcome = .clean node := by
  simp only [wordStage] at read
  split at read
  · exact .inl read
  · rename_i node found
    cases read
    exact .inr ⟨node, found, rfl⟩
  · cases read

/-- The expression stage hands on a text, or takes it for a value. -/
theorem cases_of_read_expressionStage (read : (expressionStage grammar).read text next = .ok outcome) :
    next.read text = .ok outcome ∨
      ∃ value, grammar.evaluator.isPlain text = true ∧ grammar.evaluator.value text = .ok value ∧
        outcome = .clean (.expression text value) := by
  simp only [expressionStage] at read
  split at read
  · rename_i isPlain
    split at read
    · rename_i value evaluated
      cases read
      exact .inr ⟨value, isPlain, evaluated, rfl⟩
    · exact .inl read
  · exact .inl read

/-- The symbol stage hands on a text, or takes it for its symbols. -/
theorem cases_of_read_symbolStage (read : (symbolStage grammar).read text next = .ok outcome) :
    next.read text = .ok outcome ∨
      isToken text = true ∧ symbolOutcome? grammar text = some outcome := by
  simp only [symbolStage] at read
  split at read
  · rename_i isOne
    split at read
    · rename_i made
      cases read
      exact .inr ⟨isOne, made⟩
    · exact .inl read
  · exact .inl read

/-- The nodes of optional marks are symbols. -/
theorem exists_symbols_of_symbolsOf {marks : List (Option Text)} {nodes : List Node}
    (built : symbolsOf grammar marks = .ok nodes) :
    ∃ symbols : List Symbol, nodes = symbols.map .symbol := by
  induction marks generalizing nodes with
  | nil =>
    cases built
    exact ⟨[], rfl⟩
  | cons mark marks inductionHypothesis =>
    cases mark with
    | none => exact inductionHypothesis built
    | some mark =>
      obtain ⟨node, isSymbol, others⟩ := bind_eq_ok_iff.1 built
      obtain ⟨nodes, areSymbols, built⟩ := bind_eq_ok_iff.1 others
      obtain ⟨symbol, -, rfl⟩ := exists_of_map_eq_ok isSymbol
      obtain ⟨symbols, rfl⟩ := inductionHypothesis areSymbols
      cases built
      exact ⟨symbol :: symbols, rfl⟩

/-- A decorated word is a lexeme of symbols around one word. -/
theorem exists_of_decoratedLexeme {decorated : DecoratedWord} {node : Node}
    (built : decoratedLexeme grammar text decorated = .ok node) :
    ∃ before after : List Symbol,
      node = .lexeme text (before.map .symbol ++ .word decorated.word :: after.map .symbol) := by
  obtain ⟨before, readBefore, built⟩ := bind_eq_ok_iff.1 built
  obtain ⟨word, isWord, built⟩ := bind_eq_ok_iff.1 built
  obtain ⟨after, readAfter, built⟩ := bind_eq_ok_iff.1 built
  obtain ⟨before, rfl⟩ := exists_symbols_of_symbolsOf readBefore
  obtain ⟨after, rfl⟩ := exists_symbols_of_symbolsOf readAfter
  rw [Node.wordOfText] at isWord
  split at isWord
  · cases isWord
    cases built
    exact ⟨before, after, rfl⟩
  · cases isWord

/-- The word stage finds the text as a word, or a lexeme of symbols around one word. -/
theorem cases_of_wordNode? {node : Node} (found : wordNode? grammar text = some (.ok node)) :
    node = .word text ∨ ∃ (before after : List Symbol) (word : Text),
      node = .lexeme text (before.map .symbol ++ .word word :: after.map .symbol) := by
  have ofDecorated : ∀ {decorated : DecoratedWord}, decoratedLexeme grammar text decorated = .ok node →
      ∃ (before after : List Symbol) (word : Text),
        node = .lexeme text (before.map .symbol ++ .word word :: after.map .symbol) := by
    intro decorated built
    obtain ⟨before, after, rfl⟩ := exists_of_decoratedLexeme built
    exact ⟨before, after, decorated.word, rfl⟩
  unfold wordNode? at found
  split at found
  · rename_i isWord
    rw [Node.wordOfText, if_pos isWord] at found
    cases found
    exact .inl rfl
  · split at found
    · exact .inr (ofDecorated (Option.some.inj found))
    · obtain ⟨decorated, -, built⟩ := Option.map_eq_some_iff.1 found
      exact .inr (ofDecorated built)

end ProseTree.Reading
