import ProseTree.Proofs.Reading.Rereading
import ProseTree.Proofs.Reading.StageCases

/-!
# The words of a token

Only the word stage finds words, and it finds at most one in a token. A run of symbols has none, and what is
kept of it is a token again.
-/

namespace ProseTree.Reading

open ProseTree.Language (CharClass Grammar)
open ProseTree.Tree (Node Symbol)

variable {grammar : Grammar} {letters wordLetters : CharClass}

section Kept

variable {token : Text}

/-- What is kept of a run of symbols. -/
def keptText (grammar : Grammar) (token : Text) : Text :=
  (keptSymbols (runPieces grammar token)).flatMap Symbol.text

/-- What is kept stood in the token. -/
theorem mem_of_mem_keptText {c : Char} (member : c ∈ keptText grammar token) : c ∈ token := by
  obtain ⟨symbol, isKept, inSymbol⟩ := List.mem_flatMap.1 member
  obtain ⟨piece, inRun, kept⟩ := List.mem_filterMap.1 isKept
  have whole : (runPieces grammar token).flatMap RunPiece.text = token := flatMap_text_runPieces token
  rw [← whole]
  refine List.mem_flatMap.2 ⟨piece, inRun, ?_⟩
  cases piece with
  | kept other =>
    cases kept
    exact inSymbol
  | dropped c => cases kept

/-- What is kept starts with a symbol of the grammar. -/
theorem exists_keptText_eq_append (nonempty : keptSymbols (runPieces grammar token) ≠ []) :
    ∃ (symbol : Symbol) (rest : Text), keptText grammar token = symbol.text ++ rest ∧
      symbol.BelongsTo grammar := by
  obtain ⟨symbol, others, kept⟩ := List.exists_cons_of_ne_nil nonempty
  refine ⟨symbol, others.flatMap Symbol.text, by rw [keptText, kept, List.flatMap_cons], ?_⟩
  exact belongsTo_of_mem_keptSymbols (kept ▸ List.mem_cons_self)

/-- What is kept of a token is a token. -/
theorem isSolid_keptText (solid : token.IsSolid)
    (nonempty : keptSymbols (runPieces grammar token) ≠ []) : (keptText grammar token).IsSolid := by
  obtain ⟨symbol, rest, starts, belongs⟩ := exists_keptText_eq_append nonempty
  refine ⟨?_, fun c member => solid.noBlank c (mem_of_mem_keptText member)⟩
  rw [starts]
  cases symbol with
  | char c => simp [Symbol.text]
  | ellipsis text =>
    cases belongs
    simp [Symbol.text, grammar.ellipsis_ne_nil]

/-- A token that starts like a sentence keeps its first letter. -/
theorem startsSentence_keptText (apart : grammar.SetsMarksApart)
    (starts : grammar.startsSentence token = true) :
    grammar.startsSentence (keptText grammar token) = true := by
  cases token with
  | nil => cases starts
  | cons c rest =>
    obtain ⟨_, letter⟩ := Bool.and_eq_true_iff.1 starts
    have symbolChar : grammar.isSymbolChar c = true := by
      simp [Grammar.isSymbolChar, letter]
    have startsElse : ¬ grammar.ellipsis <+: c :: rest := by
      -- An ellipsis starts with a terminator, and this is no letter.
      rintro ⟨after, whole⟩
      obtain ⟨d, others, parts⟩ := List.exists_cons_of_ne_nil grammar.ellipsis_ne_nil
      rw [parts] at whole
      obtain ⟨rfl, -⟩ := List.cons.inj whole
      rw [apart.noLetter d (apart.ellipsis d (parts ▸ List.mem_cons_self))] at letter
      cases letter
    have kept : keptText grammar (c :: rest) = c :: keptText grammar rest := by
      rw [keptText, runPieces_cons startsElse]
      simp [keptSymbols, symbolChar, keptText, Symbol.text]
    rw [kept]
    exact starts

end Kept

section Tokens

variable {token : Text} {children : List Node} {gaps : List Gap}

/-- There are no words among symbols. -/
theorem countAll_word_map_symbol {α : Type} (symbol : α → Symbol) (items : List α) :
    Node.countAll .word (items.map fun item => .symbol (symbol item)) = 0 :=
  Node.countAll_eq_zero_iff.2 (List.forall_mem_map.2 fun _ _ => rfl)

/-- The parts of a token without an expression are rendered as the token, or they are a run without any
word, of which characters may have been lost. -/
theorem TokenParts.flatMap_text_or (parts : TokenParts grammar token children gaps)
    (noExpression : Node.countAll .expression children = 0) :
    children.flatMap Node.text = token ∨
      keptSymbols (runPieces grammar token) ≠ [] ∧ children.flatMap Node.text = keptText grammar token ∧
        Node.countAll .word children = 0 := by
  cases parts with
  | word isWord => exact .inl ((TokenParts.word isWord).flatMap_text rfl noExpression)
  | decorated isWord opens closes trails whole =>
    exact .inl ((TokenParts.decorated isWord opens closes trails whole).flatMap_text rfl noExpression)
  | expression isPlain evaluated => simp [Node.countAll, Node.count] at noExpression
  | run nonempty =>
    refine .inr ⟨nonempty, ?_, ?_⟩
    · rw [List.flatMap_map]
      rfl
    · exact countAll_word_map_symbol id _

/-- What the word stage makes of a text holds one word. -/
theorem WordOutcome.countAll_word {text : Text} {node : Node} (word : WordOutcome grammar text node) :
    Node.countAll .word (partsOf node) = 1 := by
  have symbols := countAll_word_map_symbol (Symbol.ofChar grammar)
  cases word with
  | word isWord => rfl
  | decorated spelling =>
    rw [partsOf, spellingParts, Node.countAll_append, symbols, Node.countAll, symbols]
    rfl

/-- A symbol and a run of symbols hold no word. -/
theorem countAll_word_of_symbolOutcome? {text : Text} {outcome : Outcome} {node : Node}
    (found : symbolOutcome? grammar text = some outcome) (isNode : outcome.node = some node) :
    Node.countAll .word (partsOf node) = 0 := by
  obtain ⟨symbol, -, rfl⟩ | ⟨-, rfl⟩ := symbolOutcome?_eq_some found
  · cases isNode
    rfl
  · cases isNode
    exact countAll_word_map_symbol id _

/-- What the stages behind the word stage make of a text holds no word. -/
theorem countAll_word_of_read {text : Text} {outcome : Outcome} {node : Node}
    (known : Chain.read [expressionStage grammar, symbolStage grammar] text = .ok outcome)
    (isNode : outcome.node = some node) : Node.countAll .word (partsOf node) = 0 := by
  rw [Chain.read_cons] at known
  obtain handedOn | ⟨value, -, -, rfl⟩ := cases_of_read_expressionStage known
  · obtain nothing | ⟨-, made⟩ := cases_of_read_symbolStage handedOn
    · cases nothing
      cases isNode
    · exact countAll_word_of_symbolOutcome? made isNode
  · cases isNode
    rfl

/-- A token becomes a lexeme around what the stages behind the lexeme stage make of it. -/
theorem read_tokenChain_of_core (isOne : isToken token = true) {outcome : Outcome}
    (core : (coreChain grammar).read token = .ok outcome) :
    (tokenChain grammar).read token =
      .ok ⟨outcome.node.map fun node => .lexeme token (partsOf node), outcome.gaps⟩ := by
  rw [tokenChain, Chain.read_cons]
  simp only [lexemeStage, isOne, if_true, Chain.toNext, core, Except.map]
  rw [funext (wrapToken_eq token)]

/-- What the word stage takes becomes a lexeme around its word. -/
theorem read_tokenChain_of_word (isOne : isToken token = true) {node : Node}
    (found : wordNode? grammar token = some (.ok node)) :
    (tokenChain grammar).read token = .ok ⟨some (.lexeme token (partsOf node)), []⟩ := by
  have core : (coreChain grammar).read token = .ok (.clean node) := by
    rw [coreChain, Chain.read_cons]
    simp only [wordStage, found]
  exact read_tokenChain_of_core isOne core

/-- A token is read into as many words as the word stage finds in it, which is one or none. -/
theorem countAll_word_of_read_tokenChain (classes : grammar.alphabet = .classes letters wordLetters)
    (isOne : isToken token = true)
    (known : (tokenChain grammar).read token = .ok ⟨some (.lexeme token children), gaps⟩) :
    Node.countAll .word children = if (wordNode? grammar token).isSome then 1 else 0 := by
  cases found : wordNode? grammar token with
  | some built =>
    obtain ⟨node, rfl, word⟩ := wordOutcome_of_wordNode? classes found
    rw [read_tokenChain_of_word isOne found] at known
    cases known
    exact word.countAll_word
  | none =>
    have core : (coreChain grammar).read token =
        Chain.read [expressionStage grammar, symbolStage grammar] token := by
      rw [coreChain, Chain.read_cons]
      simp only [wordStage, found]
      rfl
    obtain ⟨outcome, read, -⟩ := read_expressionStage grammar token
    rw [read_tokenChain_of_core isOne (core.trans read)] at known
    simp only [Except.ok.injEq, Outcome.mk.injEq, Option.map_eq_some_iff, Node.lexeme.injEq,
      true_and] at known
    obtain ⟨⟨node, isNode, rfl⟩, -⟩ := known
    exact countAll_word_of_read read isNode

end Tokens

end ProseTree.Reading
