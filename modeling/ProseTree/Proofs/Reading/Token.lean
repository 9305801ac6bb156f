import ProseTree.Proofs.Language.Decoration
import ProseTree.Proofs.Language.Division
import ProseTree.Proofs.Tree.WellFormed
import ProseTree.Reading.Standard

/-!
# What becomes of a token

`TokenParts` lists the ways in which a token becomes a lexeme: as a word, as a decorated word, as an
expression, or as a run of symbols. The chain of the four inner stages always has an outcome, and it
is one of these or none at all; a text that is no token may still be taken whole by one of the stages.
-/

namespace ProseTree

open ProseTree.Language (CharClass DecoratedWord Grammar WordSpelling)
open ProseTree.Tree (ModelError Node Symbol)

/-- The symbol that a single character is checked into. -/
def Tree.Symbol.ofChar (grammar : Grammar) (c : Char) : Symbol :=
  if [c] = grammar.ellipsis then .ellipsis [c] else .char c

namespace Tree.Symbol

variable {grammar : Grammar}

@[simp]
theorem text_ofChar (c : Char) : (ofChar grammar c).text = [c] := by
  unfold ofChar
  split <;> rfl

/-- A character of a class of symbols gives a symbol of the grammar. -/
theorem belongsTo_ofChar {c : Char} (symbolChar : grammar.isSymbolChar c = true) :
    (ofChar grammar c).BelongsTo grammar := by
  unfold ofChar
  split
  · rename_i isEllipsis
    exact isEllipsis
  · exact symbolChar

/-- A single character always spells a symbol. -/
theorem ofText_singleton (c : Char) : ofText grammar [c] = .ok (ofChar grammar c) := by
  unfold ofText ofChar
  split <;> rfl

/-- The ellipsis spells itself. -/
theorem ofText_ellipsis : ofText grammar grammar.ellipsis = .ok (.ellipsis grammar.ellipsis) := by
  simp [ofText]

/-- What a text spells is rendered as this text. -/
theorem text_of_ofText {text : Text} {symbol : Symbol} (marked : ofText grammar text = .ok symbol) :
    symbol.text = text := by
  unfold ofText at marked
  split at marked
  · cases marked
    rfl
  · split at marked
    · cases marked
      rfl
    · cases marked

end Tree.Symbol

namespace Reading

variable {grammar : Grammar} {letters wordLetters : CharClass}

section Runs

/-- The pieces of a token, put together, are the token. -/
theorem flatMap_text_runPieces (text : Text) :
    (runPieces grammar text).flatMap RunPiece.text = text := by
  fun_induction runPieces grammar text with
  | case1 => rfl
  | case2 c rest after found shorter inductionHypothesis =>
    rw [List.flatMap_cons, inductionHypothesis, Text.dropBeginning?_eq_some_iff.1 found]
    rfl
  | case3 c rest missing inductionHypothesis =>
    rw [List.flatMap_cons, inductionHypothesis]
    split <;> rfl

/-- What is kept of a token are symbols of the grammar, what is dropped are characters that cannot
be symbols. -/
theorem runPieces_classified (text : Text) :
    ∀ piece ∈ runPieces grammar text,
      match piece with
      | .kept symbol => symbol.BelongsTo grammar
      | .dropped c => grammar.isSymbolChar c = false := by
  fun_induction runPieces grammar text with
  | case1 => simp
  | case2 c rest after found shorter inductionHypothesis =>
    refine List.forall_mem_cons.2 ⟨?_, inductionHypothesis⟩
    rfl
  | case3 c rest missing inductionHypothesis =>
    refine List.forall_mem_cons.2 ⟨?_, inductionHypothesis⟩
    cases symbolChar : grammar.isSymbolChar c with
    | true => exact symbolChar
    | false => exact symbolChar

/-- Every kept symbol is one of the grammar. -/
theorem belongsTo_of_mem_keptSymbols {text : Text} {symbol : Symbol}
    (member : symbol ∈ keptSymbols (runPieces grammar text)) : symbol.BelongsTo grammar := by
  obtain ⟨piece, inRun, kept⟩ := List.mem_filterMap.1 member
  have classified := runPieces_classified text piece inRun
  cases piece with
  | kept other =>
    cases kept
    exact classified
  | dropped c => cases kept

/-- An ellipsis is kept whole wherever the scan meets one. -/
theorem runPieces_ellipsis_append (grammar : Grammar) (rest : Text) :
    runPieces grammar (grammar.ellipsis ++ rest) =
      .kept (.ellipsis grammar.ellipsis) :: runPieces grammar rest := by
  have whole : Text.dropBeginning? grammar.ellipsis (grammar.ellipsis ++ rest) = some rest :=
    Text.dropBeginning?_eq_some_iff.2 rfl
  obtain ⟨c, others, parts⟩ := List.exists_cons_of_ne_nil
    (List.append_ne_nil_of_left_ne_nil grammar.ellipsis_ne_nil rest)
  rw [parts] at whole ⊢
  rw [runPieces]
  split
  · rename_i after found
    rw [whole] at found
    cases found
    rfl
  · rename_i missing
    rw [whole] at missing
    cases missing

/-- The ellipsis is one piece. -/
theorem runPieces_ellipsis (grammar : Grammar) :
    runPieces grammar grammar.ellipsis = [.kept (.ellipsis grammar.ellipsis)] := by
  have whole := runPieces_ellipsis_append grammar []
  rwa [List.append_nil, runPieces] at whole

/-- Where no ellipsis starts the scan takes one character. -/
theorem runPieces_cons {c : Char} {rest : Text} (startsElse : ¬ grammar.ellipsis <+: c :: rest) :
    runPieces grammar (c :: rest) =
      (if grammar.isSymbolChar c then .kept (.char c) else .dropped c) :: runPieces grammar rest := by
  have missing := Text.dropBeginning?_eq_none_iff.2 startsElse
  rw [runPieces]
  split
  · rename_i after found
    rw [missing] at found
    cases found
  · rfl

/-- A single character that is no ellipsis is one piece. -/
theorem runPieces_singleton {c : Char} (noEllipsis : [c] ≠ grammar.ellipsis) :
    runPieces grammar [c] = [if grammar.isSymbolChar c then .kept (.char c) else .dropped c] := by
  have startsElse : ¬ grammar.ellipsis <+: [c] := by
    intro starts
    obtain empty | ⟨others, whole, rest⟩ := List.prefix_cons_iff.1 starts
    · exact grammar.ellipsis_ne_nil empty
    · rw [List.prefix_nil.1 rest] at whole
      exact noEllipsis whole.symm
  rw [runPieces_cons startsElse, runPieces]

/-- No symbol is kept of a text exactly when it holds neither the ellipsis nor a character that can be
a symbol. -/
theorem keptSymbols_eq_nil_iff {text : Text} : keptSymbols (runPieces grammar text) = [] ↔
    ¬ (grammar.ellipsis <:+: text ∨ ∃ c ∈ text, grammar.isSymbolChar c = true) := by
  fun_induction runPieces grammar text with
  | case1 => simp [keptSymbols, List.infix_nil, grammar.ellipsis_ne_nil]
  | case2 c rest after found shorter inductionHypothesis =>
    have starts : grammar.ellipsis <+: c :: rest := ⟨after, (Text.dropBeginning?_eq_some_iff.1 found).symm⟩
    simp [keptSymbols, starts.isInfix]
  | case3 c rest missing inductionHypothesis =>
    have startsElse := Text.dropBeginning?_eq_none_iff.1 missing
    simp only [List.infix_cons_iff, List.mem_cons, exists_eq_or_imp]
    cases symbolChar : grammar.isSymbolChar c with
    | true => simp [keptSymbols]
    | false =>
      simp only [startsElse, false_or, Bool.false_eq_true, ← inductionHypothesis]
      rfl

end Runs

/-- The gap of a character that is dropped from a run of symbols. -/
def droppedGap (c : Char) : Gap :=
  ⟨symbolName, [c], .droppedCharacter⟩

/-- How a token becomes the children of a lexeme, and the gaps that are left. -/
inductive TokenParts (grammar : Grammar) (token : Text) : List Node → List Gap → Prop
  | word (isWord : grammar.isWord token = true) : TokenParts grammar token [.word token] []
  | decorated {opening closing trailing : Option Char} {word : Text}
      (isWord : grammar.isWord word = true)
      (opens : ∀ c ∈ opening, grammar.isEnclosure c = true)
      (closes : ∀ c ∈ closing, grammar.isEnclosure c = true)
      (trails : ∀ c ∈ trailing, grammar.punctuation.contains c = true)
      (whole : token = opening.toList ++ word ++ closing.toList ++ trailing.toList) :
      TokenParts grammar token
        (opening.toList.map (fun c => .symbol (.ofChar grammar c)) ++ .word word ::
          (closing.toList ++ trailing.toList).map fun c => .symbol (.ofChar grammar c)) []
  | expression {value : Float} (isPlain : grammar.evaluator.isPlain token = true)
      (evaluated : grammar.evaluator.value token = .ok value) :
      TokenParts grammar token [.expression token value] []
  | run (nonempty : keptSymbols (runPieces grammar token) ≠ []) :
      TokenParts grammar token ((keptSymbols (runPieces grammar token)).map .symbol)
        ((droppedChars (runPieces grammar token)).map droppedGap)

/-- The children that a node gives to the lexeme around it. -/
def partsOf : Node → List Node
  | .lexeme _ children => children
  | node => [node]

/-- A lexeme around a node holds its parts. -/
theorem wrapToken_eq (token : Text) (node : Node) :
    wrapToken token node = .lexeme token (partsOf node) := by
  cases node <;> rfl

/-- A node of the kinds that the inner stages make. -/
def IsInner (node : Node) : Prop :=
  node.kind ≠ .document ∧ node.kind ≠ .paragraph ∧ node.kind ≠ .sentence

/-- What the three innermost stages make of a text: nothing, if no symbol can be kept of it, or the
parts of a lexeme. -/
inductive CoreOutcome (grammar : Grammar) (text : Text) : Outcome → Prop
  | unrecognized
      (nothing : isToken text = true → keptSymbols (runPieces grammar text) = []) :
      CoreOutcome grammar text .unrecognized
  | recognized {node : Node} {gaps : List Gap} (inner : IsInner node)
      (parts : TokenParts grammar text (partsOf node) gaps) :
      CoreOutcome grammar text ⟨some node, gaps⟩

/-- The stages that read what a lexeme holds. -/
def coreChain (grammar : Grammar) : Chain :=
  [wordStage grammar, expressionStage grammar, symbolStage grammar]

/-- The stages that read a token. -/
def tokenChain (grammar : Grammar) : Chain :=
  lexemeStage :: coreChain grammar

/-- The symbol stage makes one symbol of a text, or a run of the symbols that can be kept of it. -/
theorem symbolOutcome?_eq_some {text : Text} {outcome : Outcome}
    (found : symbolOutcome? grammar text = some outcome) :
    (∃ symbol, runPieces grammar text = [.kept symbol] ∧ outcome = .clean (.symbol symbol)) ∨
      keptSymbols (runPieces grammar text) ≠ [] ∧
        outcome = ⟨some (.lexeme text ((keptSymbols (runPieces grammar text)).map .symbol)),
          (droppedChars (runPieces grammar text)).map droppedGap⟩ := by
  unfold symbolOutcome? at found
  split at found
  · rename_i isEllipsis
    cases found
    rw [isEllipsis, runPieces_ellipsis]
    exact .inl ⟨_, rfl, rfl⟩
  · rename_i noEllipsis
    split at found
    · split at found
      · rename_i symbolChar
        cases found
        rw [runPieces_singleton noEllipsis, if_pos symbolChar]
        exact .inl ⟨_, rfl, rfl⟩
      · cases found
    · dsimp only at found
      split at found
      · cases found
      · rename_i nonempty
        cases found
        exact .inr ⟨by simpa using nonempty, rfl⟩

/-- A single symbol and a run of symbols are the same to the lexeme around them. -/
theorem coreOutcome_of_symbolOutcome? {text : Text} {outcome : Outcome}
    (found : symbolOutcome? grammar text = some outcome) : CoreOutcome grammar text outcome := by
  have asRun := @TokenParts.run grammar text
  obtain ⟨symbol, single, rfl⟩ | ⟨nonempty, rfl⟩ := symbolOutcome?_eq_some found
  · rw [single] at asRun
    exact .recognized (by simp [IsInner, Node.kind]) (asRun (by simp [keptSymbols]))
  · exact .recognized (by simp [IsInner, Node.kind]) (asRun nonempty)

/-- A token is handed on by the symbol stage only when no symbol can be kept of it. -/
theorem keptSymbols_of_symbolOutcome? {text : Text} (missing : symbolOutcome? grammar text = none) :
    keptSymbols (runPieces grammar text) = [] := by
  unfold symbolOutcome? at missing
  split at missing
  · cases missing
  · rename_i noEllipsis
    split at missing
    · rename_i c
      split at missing
      · cases missing
      · rename_i noSymbol
        rw [runPieces_singleton noEllipsis, if_neg noSymbol]
        rfl
    · dsimp only at missing
      split at missing
      · rename_i empty
        simpa using empty
      · cases missing

/-- The last stage keeps what it can as symbols. -/
theorem read_symbolStage (grammar : Grammar) (text : Text) :
    ∃ outcome, Chain.read [symbolStage grammar] text = .ok outcome ∧
      CoreOutcome grammar text outcome := by
  rw [Chain.read_cons]
  simp only [symbolStage]
  cases isOne : isToken text with
  | false => exact ⟨.unrecognized, rfl, .unrecognized (by simp [isOne])⟩
  | true =>
    simp only [if_true]
    cases found : symbolOutcome? grammar text with
    | none => exact ⟨.unrecognized, rfl, .unrecognized fun _ => keptSymbols_of_symbolOutcome? found⟩
    | some outcome => exact ⟨outcome, rfl, coreOutcome_of_symbolOutcome? found⟩

/-- An expression is taken where it has a value; all else is left to the symbol stage. -/
theorem read_expressionStage (grammar : Grammar) (text : Text) :
    ∃ outcome, Chain.read [expressionStage grammar, symbolStage grammar] text = .ok outcome ∧
      CoreOutcome grammar text outcome := by
  rw [Chain.read_cons]
  simp only [expressionStage]
  cases isPlain : grammar.evaluator.isPlain text with
  | false => exact read_symbolStage grammar text
  | true =>
    simp only [if_true]
    cases evaluated : grammar.evaluator.value text with
    | error cause => exact read_symbolStage grammar text
    | ok value =>
      exact ⟨_, rfl, .recognized (by simp [IsInner, Node.kind]) (.expression isPlain evaluated)⟩

/-- The symbols of marks that are single characters. -/
theorem symbolsOf_chars (grammar : Grammar) (marks : List (Option Char)) :
    symbolsOf grammar (marks.map (Option.map ([·]))) =
      .ok (marks.reduceOption.map fun c => .symbol (.ofChar grammar c)) := by
  induction marks with
  | nil => rfl
  | cons mark marks inductionHypothesis =>
    cases mark with
    | none => exact inductionHypothesis
    | some c =>
      simp only [List.map_cons, Option.map_some, symbolsOf, Node.symbolOfText,
        Symbol.ofText_singleton, inductionHypothesis]
      rfl

/-- The children of the lexeme of a word with characters around it. -/
def spellingParts (spelling : WordSpelling grammar) : List Node :=
  spelling.opening.toList.map (fun c => .symbol (.ofChar grammar c)) ++ .word spelling.word ::
    spelling.ending.map fun c => .symbol (.ofChar grammar c)

/-- The lexeme of a word with characters around it holds them in order. -/
theorem decoratedLexeme_decorated (spelling : WordSpelling grammar) (text : Text) :
    decoratedLexeme grammar text spelling.decorated = .ok (.lexeme text (spellingParts spelling)) := by
  have before := symbolsOf_chars grammar [spelling.opening]
  have after := symbolsOf_chars grammar [spelling.closing, spelling.trailing]
  have leaf : Node.wordOfText grammar spelling.word = .ok (.word spelling.word) :=
    if_pos spelling.isWord
  have listed : [spelling.opening].reduceOption = spelling.opening.toList ∧
      [spelling.closing, spelling.trailing].reduceOption = spelling.ending := by
    unfold WordSpelling.ending
    cases spelling.opening <;> cases spelling.closing <;> cases spelling.trailing <;> exact ⟨rfl, rfl⟩
  rw [listed.1] at before
  rw [listed.2] at after
  simp only [List.map_cons, List.map_nil] at before after
  simp only [decoratedLexeme, WordSpelling.decorated, before, after, leaf]
  rfl

/-- The node that the word stage makes of a text: the text is a word, or a word with characters around
it. -/
inductive WordOutcome (grammar : Grammar) : Text → Node → Prop
  | word {text : Text} (isWord : grammar.isWord text = true) : WordOutcome grammar text (.word text)
  | decorated (spelling : WordSpelling grammar) :
      WordOutcome grammar spelling.text (.lexeme spelling.text (spellingParts spelling))

/-- A word and a decorated word are the parts of a lexeme. -/
theorem WordOutcome.coreOutcome {text : Text} {node : Node} (word : WordOutcome grammar text node) :
    CoreOutcome grammar text (.clean node) := by
  cases word with
  | word isWord => exact .recognized (by simp [IsInner, Node.kind]) (.word isWord)
  | decorated spelling =>
    have whole : spelling.text = spelling.opening.toList ++ spelling.word ++ spelling.closing.toList ++
        spelling.trailing.toList := by
      simp [WordSpelling.text, WordSpelling.ending]
    exact .recognized (by simp [IsInner, Node.kind])
      (.decorated spelling.isWord spelling.opens spelling.closes spelling.trails whole)

/-- What the word stage recognises it can build. -/
theorem wordOutcome_of_wordNode? (classes : grammar.alphabet = .classes letters wordLetters) {text : Text}
    {built : Except ModelError Node} (found : wordNode? grammar text = some built) :
    ∃ node, built = .ok node ∧ WordOutcome grammar text node := by
  have ofReadFrom : ∀ {decorated : DecoratedWord}, decorated.ReadFrom grammar text →
      ∃ node, decoratedLexeme grammar text decorated = .ok node ∧ WordOutcome grammar text node := by
    intro decorated readFrom
    obtain ⟨spelling, rfl, rfl⟩ := WordSpelling.exists_of_readFrom readFrom
    exact ⟨_, decoratedLexeme_decorated spelling spelling.text, .decorated spelling⟩
  unfold wordNode? at found
  split at found
  · rename_i isWord
    cases found
    exact ⟨_, if_pos isWord, .word isWord⟩
  · split at found
    · rename_i punctuated
      cases found
      exact ofReadFrom (Grammar.readFrom_wordWithPunctuation? classes punctuated)
    · obtain ⟨decorated, enclosed, rfl⟩ := Option.map_eq_some_iff.1 found
      exact ofReadFrom (Grammar.readFrom_decoratedWord? classes enclosed)

/-- Words come first, then decorated words; all else is left to the other stages. -/
theorem read_coreChain (classes : grammar.alphabet = .classes letters wordLetters) (text : Text) :
    ∃ outcome, (coreChain grammar).read text = .ok outcome ∧ CoreOutcome grammar text outcome := by
  rw [coreChain, Chain.read_cons]
  simp only [wordStage]
  cases found : wordNode? grammar text with
  | none => exact read_expressionStage grammar text
  | some built =>
    obtain ⟨node, rfl, word⟩ := wordOutcome_of_wordNode? classes found
    exact ⟨_, rfl, word.coreOutcome⟩

/-- What the four inner stages make of a text. Of a token they make a lexeme or nothing. -/
inductive TokenOutcome (grammar : Grammar) (text : Text) : Outcome → Prop
  | unrecognized
      (nothing : isToken text = true → keptSymbols (runPieces grammar text) = []) :
      TokenOutcome grammar text .unrecognized
  | lexeme {children : List Node} {gaps : List Gap} (isOne : isToken text = true)
      (parts : TokenParts grammar text children gaps) :
      TokenOutcome grammar text ⟨some (.lexeme text children), gaps⟩
  | fragment {node : Node} {gaps : List Gap} (isNone : isToken text = false)
      (inner : IsInner node) : TokenOutcome grammar text ⟨some node, gaps⟩

/-- The four inner stages always have an outcome. -/
theorem read_tokenChain (classes : grammar.alphabet = .classes letters wordLetters) (text : Text) :
    ∃ outcome, (tokenChain grammar).read text = .ok outcome ∧ TokenOutcome grammar text outcome := by
  obtain ⟨outcome, read, core⟩ := read_coreChain classes text
  rw [tokenChain, Chain.read_cons]
  simp only [lexemeStage, Chain.toNext, read]
  cases isOne : isToken text with
  | false =>
    refine ⟨outcome, rfl, ?_⟩
    cases core with
    | unrecognized nothing => exact .unrecognized nothing
    | recognized inner parts => exact .fragment isOne inner
  | true =>
    refine ⟨_, rfl, ?_⟩
    cases core with
    | unrecognized nothing => exact .unrecognized nothing
    | @recognized node gaps inner parts =>
      simp only [Option.map_some, wrapToken_eq]
      exact .lexeme isOne parts

/-- What holds of some outcome of a text holds of the outcome that was read. -/
theorem holds_of_read {holds : Outcome → Prop} {result : Except ParseError Outcome} {outcome : Outcome}
    (readable : ∃ other, result = .ok other ∧ holds other) (known : result = .ok outcome) :
    holds outcome := by
  obtain ⟨other, same, found⟩ := readable
  rw [known] at same
  cases same
  exact found

/-- What was read by the four inner stages is one of these outcomes. -/
theorem tokenOutcome_of_read (classes : grammar.alphabet = .classes letters wordLetters)
    {text : Text} {outcome : Outcome} (known : (tokenChain grammar).read text = .ok outcome) :
    TokenOutcome grammar text outcome :=
  holds_of_read (read_tokenChain classes text) known

/-- A text that is not empty and holds no white space is a token. -/
theorem isToken_of_isSolid {text : Text} (solid : text.IsSolid) : isToken text = true := by
  have noBlank : text.any Text.isBlank = false := by
    rw [List.any_eq_false]
    exact fun c inside => by simp [solid.noBlank c inside]
  simp [isToken, solid.nonempty, noBlank]

/-- A token of a text is a token. -/
theorem isToken_of_mem_tokens {text token : Text} (member : token ∈ Text.tokens text) :
    isToken token = true :=
  isToken_of_isSolid (Text.isSolid_of_mem_tokens member)

end Reading

end ProseTree
