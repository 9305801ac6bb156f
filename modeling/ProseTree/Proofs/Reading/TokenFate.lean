import ProseTree.Proofs.Arithmetic.PlainStart
import ProseTree.Proofs.Language.SymbolChars
import ProseTree.Proofs.Reading.TokenWords

/-!
# The fate of a token

Every token is an expression, or its lexeme holds exactly those of its characters that can be symbols, in
their order, and the others are gaps of the symbol stage, one for each. A token without any symbol is lost
without a gap of its own. This holds where words and the ellipsis are made of characters that can be
symbols: no word loses a character then, and an ellipsis that is kept whole adds none.
-/

namespace ProseTree.Reading

open ProseTree.Language (BuiltIn Grammar)
open ProseTree.Tree (Node Symbol)

variable {grammar : Grammar}

section Runs

variable (spells : grammar.SpellsInSymbols) (token : Text)

include spells

/-- A run keeps the characters that can be symbols. -/
theorem keptText_eq_filter : keptText grammar token = token.filter grammar.isSymbolChar := by
  unfold keptText
  fun_induction runPieces grammar token with
  | case1 => rfl
  | case2 c rest after found shorter inductionHypothesis =>
    rw [Text.dropBeginning?_eq_some_iff.1 found, List.filter_append,
      List.filter_eq_self.2 spells.ellipsis, ← inductionHypothesis]
    rfl
  | case3 c rest missing inductionHypothesis =>
    cases symbolChar : grammar.isSymbolChar c with
    | true =>
      rw [List.filter_cons_of_pos symbolChar, ← inductionHypothesis]
      rfl
    | false =>
      rw [List.filter_cons_of_neg (by simp [symbolChar]), ← inductionHypothesis]
      rfl

/-- A run drops the characters that cannot be symbols. -/
theorem droppedChars_eq_filter :
    droppedChars (runPieces grammar token) = token.filter fun c => !grammar.isSymbolChar c := by
  fun_induction runPieces grammar token with
  | case1 => rfl
  | case2 c rest after found shorter inductionHypothesis =>
    have noneDropped : (grammar.ellipsis.filter fun c => !grammar.isSymbolChar c) = [] := by
      simpa using spells.ellipsis
    rw [Text.dropBeginning?_eq_some_iff.1 found, List.filter_append, noneDropped, List.nil_append,
      ← inductionHypothesis]
    rfl
  | case3 c rest missing inductionHypothesis =>
    cases symbolChar : grammar.isSymbolChar c with
    | true =>
      rw [List.filter_cons_of_neg (by simp [symbolChar]), ← inductionHypothesis]
      rfl
    | false =>
      rw [List.filter_cons_of_pos (by simp [symbolChar]), ← inductionHypothesis]
      rfl

end Runs

section Parts

variable {token : Text} {children : List Node} {gaps : List Gap}

/-- The children of a lexeme and the gaps that keep a token character by character: what can be a symbol
is in a child, and what cannot is a gap. -/
structure KeepsSymbolChars (grammar : Grammar) (token : Text) (children : List Node)
    (gaps : List Gap) : Prop where
  noExpression : ∀ child ∈ children, child.kind ≠ .expression
  kept : children.flatMap Node.text = token.filter grammar.isSymbolChar
  dropped : gaps = (token.filter fun c => !grammar.isSymbolChar c).map droppedGap

/-- A token of characters that can be symbols is kept without gaps by children that are rendered as it. -/
theorem keepsSymbolChars_of_forall (noExpression : ∀ child ∈ children, child.kind ≠ .expression)
    (rendered : children.flatMap Node.text = token)
    (symbols : ∀ c ∈ token, grammar.isSymbolChar c = true) :
    KeepsSymbolChars grammar token children [] where
  noExpression := noExpression
  kept := by rw [rendered, List.filter_eq_self.2 symbols]
  dropped := by
    have noneDropped : (token.filter fun c => !grammar.isSymbolChar c) = [] := by simpa using symbols
    rw [noneDropped, List.map_nil]

/-- Among symbols there is no expression. -/
theorem kind_ne_expression_of_mem_map {α : Type} {symbol : α → Symbol} {items : List α} :
    ∀ node ∈ items.map fun item => Node.symbol (symbol item), node.kind ≠ .expression := by
  intro node member
  obtain ⟨item, _, rfl⟩ := List.mem_map.1 member
  simp [Node.kind]

/-- The parts of a token are an expression without gaps, or they keep the token character by
character. -/
theorem TokenParts.evaluated_or_keeps (spells : grammar.SpellsInSymbols)
    (parts : TokenParts grammar token children gaps) :
    (∃ value, grammar.evaluator.evaluate token = .ok value ∧ children = [.expression token value] ∧
        gaps = []) ∨
      KeepsSymbolChars grammar token children gaps := by
  cases parts with
  | word isWord =>
    refine .inr (keepsSymbolChars_of_forall (by simp [Node.kind]) ?_ (spells.word isWord))
    simp [Node.text]
  | @decorated opening closing trailing word isWord opens closes trails whole =>
    refine .inr (keepsSymbolChars_of_forall ?_ ?_ ?_)
    · intro child member
      rcases List.mem_append.1 member with before | behind
      · exact kind_ne_expression_of_mem_map child before
      · rcases List.mem_cons.1 behind with rfl | behind
        · simp [Node.kind]
        · exact kind_ne_expression_of_mem_map child behind
    · have marks : ∀ chars : List Char,
          (chars.map fun c => Node.symbol (.ofChar grammar c)).flatMap Node.text = chars := by
        intro chars
        simp [List.flatMap_map, Node.text]
      rw [whole, List.flatMap_append, List.flatMap_cons, marks, marks, Node.text]
      simp
    · intro c member
      simp only [whole, List.mem_append, Option.mem_toList] at member
      obtain ((opening | inWord) | closing) | trailing := member
      · exact Grammar.isSymbolChar_of_isEnclosure (opens c opening)
      · exact spells.word isWord c inWord
      · exact Grammar.isSymbolChar_of_isEnclosure (closes c closing)
      · exact Grammar.isSymbolChar_of_punctuation (trails c trailing)
  | @expression value isPlain evaluated =>
    refine .inl ⟨value, ?_, rfl, rfl⟩
    rw [Arithmetic.Evaluator.evaluate, evaluated]
    rfl
  | run nonempty =>
    have symbols : ∀ child ∈ (keptSymbols (runPieces grammar token)).map Node.symbol,
        child.kind ≠ .expression := kind_ne_expression_of_mem_map
    refine .inr ⟨symbols, ?_, ?_⟩
    · rw [List.flatMap_map]
      exact keptText_eq_filter spells token
    · rw [droppedChars_eq_filter spells]

/-- A token that becomes a lexeme has a character that can be a symbol. -/
theorem TokenParts.exists_isSymbolChar (solid : token.IsSolid) (spells : grammar.SpellsInSymbols)
    {letters wordLetters : Language.CharClass} (classes : grammar.alphabet = .classes letters wordLetters)
    (parts : TokenParts grammar token children gaps) : ∃ c ∈ token, grammar.isSymbolChar c = true := by
  have ofWord : ∀ {word : Text}, grammar.isWord word = true →
      ∃ c ∈ word, grammar.isSymbolChar c = true := by
    intro word isWord
    obtain ⟨c, rest, rfl, -⟩ := Grammar.exists_letter_of_isWord classes isWord
    exact ⟨c, List.mem_cons_self, spells.word isWord c List.mem_cons_self⟩
  cases parts with
  | word isWord => exact ofWord isWord
  | decorated isWord opens closes trails whole =>
    obtain ⟨c, member, symbolChar⟩ := ofWord isWord
    exact ⟨c, by simp [whole, member], symbolChar⟩
  | expression isPlain evaluated =>
    obtain ⟨c, rest, rfl⟩ := List.exists_cons_of_ne_nil solid.nonempty
    have noBlank := solid.noBlank c List.mem_cons_self
    obtain blank | digit := Arithmetic.Evaluator.blank_or_digit_of_isPlain isPlain
    · rw [noBlank] at blank
      cases blank
    · have ascii := Arithmetic.Evaluator.isDigit_of_value digit evaluated
      exact ⟨c, List.mem_cons_self, Grammar.isSymbolChar_of_isDigit ascii⟩
  | run nonempty =>
    have something := (isSolid_keptText solid nonempty).nonempty
    rw [keptText_eq_filter spells] at something
    obtain ⟨c, member⟩ := List.exists_mem_of_ne_nil _ something
    exact ⟨c, List.mem_filter.1 member⟩

end Parts

/-- From the lexeme stage on, the standard chain is the chain that reads a token. -/
theorem readFrom_lexemeName (schedule : Schedule) (text : Text) :
    (standardChain grammar schedule).readFrom lexemeName text = (tokenChain grammar).read text := rfl

/-- Under a built-in grammar a token without any character that can be a symbol is lost without a gap. Any
other token becomes a lexeme with the token as its source, which holds the value of the token or exactly
its characters that can be symbols, the other ones being gaps of the symbol stage. -/
theorem readFrom_lexemeName_of_isSolid {language : BuiltIn} {grammar : Grammar}
    (accepted : Grammar.ofConfiguration language.configuration = .ok grammar) (schedule : Schedule)
    {token : Text} (solid : token.IsSolid) :
    ∃ outcome, (standardChain grammar schedule).readFrom lexemeName token = .ok outcome ∧
      ((outcome.node = none ∧ outcome.gaps = []) ↔ ∀ c ∈ token, grammar.isSymbolChar c = false) ∧
      ((∃ c ∈ token, grammar.isSymbolChar c = true) →
        ∃ children, outcome.node = some (.lexeme token children) ∧
          ((∃ value, grammar.evaluator.evaluate token = .ok value ∧
              children = [.expression token value] ∧ outcome.gaps = []) ∨
            KeepsSymbolChars grammar token children outcome.gaps)) := by
  obtain ⟨letters, wordLetters, classes⟩ := Grammar.exists_classes accepted language.hasPlainLetters
  have spells := BuiltIn.spellsInSymbols accepted
  have isOne := isToken_of_isSolid solid
  obtain ⟨outcome, read, fate⟩ := read_tokenChain classes token
  refine ⟨outcome, (readFrom_lexemeName schedule token).trans read, ?_⟩
  cases fate with
  | unrecognized nothing =>
    have noneKept := keptText_eq_filter spells token
    rw [keptText, nothing isOne, List.flatMap_nil, eq_comm, List.filter_eq_nil_iff] at noneKept
    simp only [Bool.not_eq_true] at noneKept
    refine ⟨⟨fun _ => noneKept, fun _ => ⟨rfl, rfl⟩⟩, ?_⟩
    rintro ⟨c, member, symbolChar⟩
    rw [noneKept c member] at symbolChar
    cases symbolChar
  | @lexeme children gaps isOne parts =>
    obtain ⟨c, member, symbolChar⟩ := parts.exists_isSymbolChar solid spells classes
    refine ⟨⟨?_, ?_⟩, fun _ => ⟨children, rfl, parts.evaluated_or_keeps spells⟩⟩
    · rintro ⟨missing, -⟩
      cases missing
    · intro noSymbol
      rw [noSymbol c member] at symbolChar
      cases symbolChar
  | fragment isNone inner => simp [isOne] at isNone

/-- An English token of two letters and a character between them that is no symbol. -/
theorem readFrom_lexemeName_english :
    ∃ grammar outcome children, Grammar.ofConfiguration .english = .ok grammar ∧
      Text.IsSolid "a§b" ∧
      (standardChain grammar .sequential).readFrom lexemeName "a§b" = .ok outcome ∧
      outcome.node = some (.lexeme "a§b" children) ∧
      children.flatMap Node.text = "ab".toList ∧ outcome.gaps = [droppedGap '§'] := by
  obtain ⟨grammar, accepted⟩ := BuiltIn.english.exists_ofConfiguration
  have solid : Text.IsSolid "a§b" := ⟨by decide, Text.forall_eq_false_of_any rfl⟩
  obtain ⟨outcome, read, -, becomesLexeme⟩ :=
    readFrom_lexemeName_of_isSolid accepted .sequential solid
  have kept : "a§b".toList.filter grammar.isSymbolChar = "ab" :=
    Grammar.eq_of_computed accepted (fun grammar => "a§b".toList.filter grammar.isSymbolChar)
      (by decide +kernel)
  have dropped : ("a§b".toList.filter fun c => !grammar.isSymbolChar c) = "§" :=
    Grammar.eq_of_computed accepted
      (fun grammar => "a§b".toList.filter fun c => !grammar.isSymbolChar c) (by decide +kernel)
  have noValue : (grammar.evaluator.evaluate "a§b").toOption.isSome = false :=
    Grammar.eq_of_computed accepted
      (fun grammar => (grammar.evaluator.evaluate "a§b").toOption.isSome) (by decide +kernel)
  have symbol : 'a' ∈ "a§b".toList.filter grammar.isSymbolChar := by
    rw [kept]
    decide
  obtain ⟨children, isLexeme, ⟨value, evaluated, -⟩ | keeps⟩ :=
    becomesLexeme ⟨'a', List.mem_filter.1 symbol⟩
  · rw [evaluated] at noValue
    cases noValue
  · have gaps := keeps.dropped
    rw [dropped] at gaps
    exact ⟨grammar, outcome, children, accepted, solid, read, isLexeme, keeps.kept.trans kept, gaps⟩

end ProseTree.Reading
