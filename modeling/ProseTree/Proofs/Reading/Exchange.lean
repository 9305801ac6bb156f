import ProseTree.Proofs.Language.WordStart
import ProseTree.Proofs.Reading.Kinds
import ProseTree.Proofs.Reading.Spelling
import ProseTree.Proofs.Reading.Totality
import ProseTree.Proofs.Reading.TokenWords

/-!
# The order of words and expressions

Two neighbouring stages may be exchanged when each of them hands on every text that the other one takes, and
stages in front of them do not notice. In a built-in grammar no text is both a word, with or without marks
around it, and a plain expression, so the word stage and the expression stage are such stages.

Whoever enters a chain at one of the two stages passes over what stands in front of it, and this is the other
one in one of the two chains only. There the chains differ on exactly the texts that the other stage takes.
-/

namespace ProseTree.Reading

open ProseTree.Language (BuiltIn CharClass Grammar WordSpelling)
open ProseTree.Tree (Node)

variable {grammar : Grammar} {letters wordLetters : CharClass}

/-- The standard chain with the word stage and the expression stage exchanged. -/
def exchangedChain (grammar : Grammar) (schedule : Schedule) : Chain :=
  [documentStage schedule, paragraphStage grammar, sentenceStage grammar, lexemeStage,
    expressionStage grammar, wordStage grammar, symbolStage grammar]

section Pair

variable {first second stage : Stage} {text : Text} {outcome : Outcome}

/-- A stage hands a text on to what stands behind it. -/
def Stage.Forwards (stage : Stage) (text : Text) : Prop :=
  ∀ next : Next, stage.read text next = next.read text

/-- A stage makes the same of a text, whatever stands behind it. -/
def Stage.Takes (stage : Stage) (text : Text) (outcome : Outcome) : Prop :=
  ∀ next : Next, stage.read text next = .ok outcome

/-- A chain makes of a text that its first stage hands on what the other stages make of it. -/
theorem Stage.Forwards.read_cons (forwards : stage.Forwards text) (rest : Chain) :
    Chain.read (stage :: rest) text = Chain.read rest text :=
  forwards (Chain.toNext rest)

/-- A chain makes of a text what its first stage takes it for. -/
theorem Stage.Takes.read_cons (takes : stage.Takes text outcome) (rest : Chain) :
    Chain.read (stage :: rest) text = .ok outcome :=
  takes (Chain.toNext rest)

/-- Two stages that hand a text on may be exchanged. -/
theorem Chain.read_exchange_of_forwards (left : first.Forwards text) (right : second.Forwards text)
    (rest : Chain) :
    Chain.read (first :: second :: rest) text = Chain.read (second :: first :: rest) text := by
  rw [left.read_cons, right.read_cons, right.read_cons, left.read_cons]

/-- A stage that takes a text may be exchanged with one that hands it on. -/
theorem Chain.read_exchange_of_takes (left : first.Takes text outcome) (right : second.Forwards text)
    (rest : Chain) :
    Chain.read (first :: second :: rest) text = Chain.read (second :: first :: rest) text := by
  rw [left.read_cons, right.read_cons, left.read_cons]

end Pair

section Outer

variable {stage : Stage} {outer inner other : Chain}

/-- No stage looks at the name of the stage behind it. -/
theorem IsStage.read_congr (isStage : IsStage grammar stage) (text : Text) {next after : Next}
    (same : next.read = after.read) : stage.read text next = stage.read text after := by
  cases isStage with
  | document schedule => simp only [documentStage, same]
  | paragraph => simp only [paragraphStage, same]
  | sentence => simp only [sentenceStage, same]
  | lexeme => simp only [lexemeStage, same]
  | word => simp only [wordStage, same]
  | expression => simp only [expressionStage, same]
  | symbol => simp only [symbolStage, same]

/-- Chains that read alike do so behind any stages. -/
theorem Chain.read_append_congr (stages : ∀ stage ∈ outer, IsStage grammar stage)
    (same : Chain.read inner = Chain.read other) :
    Chain.read (outer ++ inner) = Chain.read (outer ++ other) := by
  induction outer with
  | nil => exact same
  | cons stage outer inductionHypothesis =>
    obtain ⟨first, others⟩ := List.forall_mem_cons.1 stages
    funext text
    exact first.read_congr text (inductionHypothesis others)

/-- Chains that read alike from the start and from a stage of some name on also read alike from a stage of
this name on behind any stages. -/
theorem Chain.readFrom_append_congr (stages : ∀ stage ∈ outer, IsStage grammar stage)
    (same : Chain.read inner = Chain.read other) {name : Text}
    (sameFrom : Chain.readFrom inner name = Chain.readFrom other name) :
    Chain.readFrom (outer ++ inner) name = Chain.readFrom (outer ++ other) name := by
  induction outer with
  | nil => exact sameFrom
  | cons stage outer inductionHypothesis =>
    by_cases isStart : stage.name = name
    · have stays : (stage.name != name) = false := by simp [isStart]
      funext text
      simp only [Chain.readFrom, List.cons_append, List.dropWhile_cons, stays, Bool.false_eq_true, if_false]
      exact congrFun (Chain.read_append_congr stages same) text
    · have passed : (stage.name != name) = true := by simp [isStart]
      obtain ⟨-, others⟩ := List.forall_mem_cons.1 stages
      have following := inductionHypothesis others
      funext text
      simp only [Chain.readFrom, List.cons_append, List.dropWhile_cons, passed, if_true]
      exact congrFun following text

end Outer

section Inner

variable {text : Text}

/-- A text that is a plain expression with a value. -/
def HasValue (grammar : Grammar) (text : Text) : Prop :=
  grammar.evaluator.isPlain text = true ∧ ∃ value, grammar.evaluator.evaluate text = .ok value

/-- The word stage hands on what it has no node for. -/
theorem forwards_wordStage (missing : wordNode? grammar text = none) :
    (wordStage grammar).Forwards text := by
  intro next
  simp only [wordStage, missing]

/-- The word stage takes what it has a node for. -/
theorem takes_wordStage {node : Node} (found : wordNode? grammar text = some (.ok node)) :
    (wordStage grammar).Takes text (.clean node) := by
  intro next
  simp only [wordStage, found]

/-- The expression stage hands on what has no value. -/
theorem forwards_expressionStage (missing : ¬ HasValue grammar text) :
    (expressionStage grammar).Forwards text := by
  intro next
  simp only [expressionStage]
  split
  · rename_i isPlain
    cases evaluated : grammar.evaluator.value text with
    | error cause => rfl
    | ok value =>
      refine absurd ⟨isPlain, value, ?_⟩ missing
      rw [Arithmetic.Evaluator.evaluate, evaluated]
      rfl
  · rfl

/-- The expression stage takes what has a value. -/
theorem takes_expressionStage (hasValue : HasValue grammar text) :
    ∃ value, (expressionStage grammar).Takes text (.clean (.expression text value)) := by
  obtain ⟨isPlain, value, evaluated⟩ := hasValue
  cases known : grammar.evaluator.value text with
  | error cause =>
    rw [Arithmetic.Evaluator.evaluate, known] at evaluated
    cases evaluated
  | ok value =>
    refine ⟨value, fun next => ?_⟩
    simp only [expressionStage, isPlain, if_true, known]

/-- No text is taken by both stages. -/
theorem wordNode?_eq_none_of_hasValue {language : BuiltIn}
    (accepted : Grammar.ofConfiguration language.configuration = .ok grammar)
    (hasValue : HasValue grammar text) : wordNode? grammar text = none := by
  rw [wordNode?_eq_none_iff accepted]
  rintro word rfl
  obtain ⟨letters, wordLetters, apart⟩ := spellsApart accepted
  have digits := BuiltIn.setsDigitsApart accepted apart.classes
  have notPlain := word.isPlain_text apart.classes apart.tokens digits
  rw [hasValue.1] at notPlain
  cases notPlain

/-- The word stage and the expression stage may be exchanged in front of any stages. -/
theorem read_exchange_word_expression {language : BuiltIn}
    (accepted : Grammar.ofConfiguration language.configuration = .ok grammar) (rest : Chain) :
    Chain.read (wordStage grammar :: expressionStage grammar :: rest) =
      Chain.read (expressionStage grammar :: wordStage grammar :: rest) := by
  obtain ⟨letters, wordLetters, classes⟩ := Grammar.exists_classes accepted language.hasPlainLetters
  funext text
  by_cases hasValue : HasValue grammar text
  · have forwards := forwards_wordStage (wordNode?_eq_none_of_hasValue accepted hasValue)
    obtain ⟨value, takes⟩ := takes_expressionStage hasValue
    exact (Chain.read_exchange_of_takes takes forwards rest).symm
  · have forwards := forwards_expressionStage hasValue
    cases found : wordNode? grammar text with
    | none => exact Chain.read_exchange_of_forwards (forwards_wordStage found) forwards rest
    | some built =>
      obtain ⟨node, rfl, -⟩ := wordOutcome_of_wordNode? classes found
      exact Chain.read_exchange_of_takes (takes_wordStage found) forwards rest

end Inner

section Entered

variable {language : BuiltIn} {text : Text}

/-- Without the expression stage no text becomes an expression. -/
theorem read_symbolStage_ne_expression (value : Float) :
    Chain.read [symbolStage grammar] text ≠ .ok (.clean (.expression text value)) := by
  intro read
  have each : ∀ stage ∈ [symbolStage grammar], stage.Preserves fun node => node.kind ≠ .expression :=
    List.forall_mem_singleton.2 ((makes_symbolStage grammar).preserves (by decide))
  exact Chain.forall_read each read rfl rfl

/-- Without the expression stage, a text is read differently exactly when it has a value. -/
theorem read_expression_symbol_iff :
    Chain.read [expressionStage grammar, symbolStage grammar] text = Chain.read [symbolStage grammar] text ↔
      ¬ HasValue grammar text := by
  constructor
  · intro same hasValue
    obtain ⟨value, takes⟩ := takes_expressionStage hasValue
    rw [takes.read_cons] at same
    exact read_symbolStage_ne_expression value same.symm
  · intro missing
    exact (forwards_expressionStage missing).read_cons _

/-- Nor does the word stage in front make up for a missing expression stage. -/
theorem read_word_expression_symbol_iff
    (accepted : Grammar.ofConfiguration language.configuration = .ok grammar) :
    Chain.read [wordStage grammar, expressionStage grammar, symbolStage grammar] text =
        Chain.read [wordStage grammar, symbolStage grammar] text ↔ ¬ HasValue grammar text := by
  obtain ⟨letters, wordLetters, classes⟩ := Grammar.exists_classes accepted language.hasPlainLetters
  cases found : wordNode? grammar text with
  | none =>
    have forwards := forwards_wordStage found
    rw [forwards.read_cons, forwards.read_cons, read_expression_symbol_iff]
  | some built =>
    obtain ⟨node, rfl, -⟩ := wordOutcome_of_wordNode? classes found
    have takes := takes_wordStage found
    rw [takes.read_cons, takes.read_cons]
    refine ⟨fun _ hasValue => ?_, fun _ => rfl⟩
    have missing := wordNode?_eq_none_of_hasValue accepted hasValue
    rw [found] at missing
    cases missing

/-- Without the word stage, a text is read differently exactly when it is a word, with or without marks
around it: only the word stage makes words. -/
theorem read_expression_word_symbol_iff
    (accepted : Grammar.ofConfiguration language.configuration = .ok grammar) :
    Chain.read [expressionStage grammar, symbolStage grammar] text =
        Chain.read [expressionStage grammar, wordStage grammar, symbolStage grammar] text ↔
      ∀ word : WordSpelling grammar, word.text ≠ text := by
  obtain ⟨letters, wordLetters, classes⟩ := Grammar.exists_classes accepted language.hasPlainLetters
  rw [← read_exchange_word_expression accepted, ← wordNode?_eq_none_iff accepted]
  constructor
  · intro same
    cases found : wordNode? grammar text with
    | none => rfl
    | some built =>
      obtain ⟨node, rfl, word⟩ := wordOutcome_of_wordNode? classes found
      rw [(takes_wordStage found).read_cons] at same
      have noWord := countAll_word_of_read same rfl
      rw [word.countAll_word] at noWord
      cases noWord
  · intro missing
    exact ((forwards_wordStage missing).read_cons _).symm

end Entered

section Chains

/-- The stages in front of words and expressions. -/
def outerStages (grammar : Grammar) (schedule : Schedule) : Chain :=
  [documentStage schedule, paragraphStage grammar, sentenceStage grammar, lexemeStage]

/-- The standard chain is made of stages of the grammar. -/
theorem isStage_of_mem_standardChain (schedule : Schedule) :
    ∀ stage ∈ standardChain grammar schedule, IsStage grammar stage := by
  simp [standardChain, IsStage.document, IsStage.paragraph, IsStage.sentence, IsStage.lexeme,
    IsStage.word, IsStage.expression, IsStage.symbol]

/-- Entered neither at the words nor at the expressions, chains that start with the two stages in either
order are read alike. -/
theorem readFrom_exchange_word_expression {name : Text}
    (notWord : name ≠ wordName) (notExpression : name ≠ expressionName) (rest : Chain) :
    Chain.readFrom (wordStage grammar :: expressionStage grammar :: rest) name =
      Chain.readFrom (expressionStage grammar :: wordStage grammar :: rest) name := by
  have passesWord : ((wordStage grammar).name != name) = true := by
    simpa [wordStage] using notWord.symm
  have passesExpression : ((expressionStage grammar).name != name) = true := by
    simpa [expressionStage] using notExpression.symm
  funext text
  simp only [Chain.readFrom, List.dropWhile_cons, passesWord, passesExpression, if_true]

/-- Words and expressions do not compete under a built-in grammar. With the two stages exchanged the standard
chain makes the same of every text, as a whole and from every stage on but these two; and from the first
of the two stages on, which is the one in one chain and the other in the other. Entered at the words, the
chains differ on the expressions that have a value, since the exchanged chain has passed the expression
stage. Entered at the expressions, they differ on the words, since the standard chain has passed the word
stage. -/
theorem readFrom_exchangedChain {language : BuiltIn}
    (accepted : Grammar.ofConfiguration language.configuration = .ok grammar) (schedule : Schedule)
    (text : Text) :
    (∃ outcome, (standardChain grammar schedule).read text = .ok outcome ∧
      (exchangedChain grammar schedule).read text = .ok outcome) ∧
    (∀ name, name ≠ wordName → name ≠ expressionName →
      ∃ outcome, (standardChain grammar schedule).readFrom name text = .ok outcome ∧
        (exchangedChain grammar schedule).readFrom name text = .ok outcome) ∧
    (∃ outcome, (standardChain grammar schedule).readFrom wordName text = .ok outcome ∧
      (exchangedChain grammar schedule).readFrom expressionName text = .ok outcome) ∧
    ((standardChain grammar schedule).readFrom wordName text =
        (exchangedChain grammar schedule).readFrom wordName text ↔ ¬ HasValue grammar text) ∧
    ((standardChain grammar schedule).readFrom expressionName text =
        (exchangedChain grammar schedule).readFrom expressionName text ↔
      ∀ word : WordSpelling grammar, word.text ≠ text) := by
  obtain ⟨letters, wordLetters, classes⟩ := Grammar.exists_classes accepted language.hasPlainLetters
  have stages : ∀ stage ∈ outerStages grammar schedule, IsStage grammar stage :=
    fun stage member => isStage_of_mem_standardChain schedule stage (List.mem_append_left _ member)
  have sameInner := read_exchange_word_expression accepted [symbolStage grammar]
  have succeeds : ∀ stage ∈ standardChain grammar schedule, stage.Succeeds :=
    fun stage member => (isStage_of_mem_standardChain schedule stage member).succeeds classes
  refine ⟨?_, fun name notWord notExpression => ?_, ?_, read_word_expression_symbol_iff accepted,
    read_expression_word_symbol_iff accepted⟩
  · obtain ⟨outcome, read⟩ := Chain.exists_read succeeds text
    refine ⟨outcome, read, ?_⟩
    rw [← read]
    exact (congrFun (Chain.read_append_congr stages sameInner) text).symm
  · obtain ⟨outcome, read⟩ := Chain.exists_readFrom succeeds name text
    have sameFrom := Chain.readFrom_append_congr stages sameInner
      (readFrom_exchange_word_expression notWord notExpression _)
    refine ⟨outcome, read, ?_⟩
    rw [← read]
    exact (congrFun sameFrom text).symm
  · obtain ⟨outcome, read⟩ := Chain.exists_readFrom succeeds wordName text
    refine ⟨outcome, read, ?_⟩
    rw [← read]
    exact (congrFun sameInner text).symm

/-- In English, a number from the lexemes and from the expressions on, and a word from the words on. -/
theorem readFrom_exchangedChain_english :
    ∃ grammar, Grammar.ofConfiguration .english = .ok grammar ∧
      (∃ outcome, (standardChain grammar .sequential).readFrom lexemeName "1" = .ok outcome ∧
        (exchangedChain grammar .sequential).readFrom lexemeName "1" = .ok outcome) ∧
      (standardChain grammar .sequential).readFrom wordName "a" =
        (exchangedChain grammar .sequential).readFrom wordName "a" ∧
      (standardChain grammar .sequential).readFrom expressionName "1" =
        (exchangedChain grammar .sequential).readFrom expressionName "1" := by
  obtain ⟨grammar, accepted⟩ := BuiltIn.english.exists_ofConfiguration
  have notPlain : grammar.evaluator.isPlain "a" = false :=
    Grammar.eq_of_computed accepted (fun grammar => grammar.evaluator.isPlain "a") (by decide +kernel)
  have noWord : (wordNode? grammar "1").isSome = false :=
    Grammar.eq_of_computed accepted (fun grammar => (wordNode? grammar "1").isSome) (by decide +kernel)
  obtain ⟨-, elsewhere, -, -, atExpressions⟩ := readFrom_exchangedChain accepted .sequential "1"
  obtain ⟨-, -, -, atWords, -⟩ := readFrom_exchangedChain accepted .sequential "a"
  refine ⟨grammar, accepted, elsewhere lexemeName (by decide) (by decide), atWords.2 ?_,
    atExpressions.2 ?_⟩
  · rintro ⟨isPlain, -⟩
    rw [isPlain] at notPlain
    cases notPlain
  · have missing := Option.isNone_iff_eq_none.1 (Option.isSome_eq_false_iff.1 noWord)
    exact (wordNode?_eq_none_iff accepted).1 missing

/-- The chains differ on an English number that is entered at the words. -/
theorem readFrom_wordName_ne_english :
    ¬ ∀ (language : BuiltIn) (grammar : Grammar),
      Grammar.ofConfiguration language.configuration = .ok grammar →
      ∀ (schedule : Schedule) (name text : Text),
        (standardChain grammar schedule).readFrom name text =
          (exchangedChain grammar schedule).readFrom name text := by
  intro alike
  obtain ⟨grammar, accepted⟩ := BuiltIn.english.exists_ofConfiguration
  have isPlain : grammar.evaluator.isPlain "1" = true :=
    Grammar.eq_of_computed accepted (fun grammar => grammar.evaluator.isPlain "1") (by decide +kernel)
  have evaluated : (grammar.evaluator.evaluate "1").toOption.isSome = true :=
    Grammar.eq_of_computed accepted (fun grammar => (grammar.evaluator.evaluate "1").toOption.isSome)
      (by decide +kernel)
  have hasValue : HasValue grammar "1" := by
    refine ⟨isPlain, ?_⟩
    cases known : grammar.evaluator.evaluate "1" with
    | error cause =>
      rw [known] at evaluated
      cases evaluated
    | ok value => exact ⟨value, rfl⟩
  have same : Chain.read [wordStage grammar, expressionStage grammar, symbolStage grammar] "1" =
      Chain.read [wordStage grammar, symbolStage grammar] "1" :=
    alike .english grammar accepted .sequential wordName "1"
  exact (read_word_expression_symbol_iff accepted).1 same hasValue

end Chains

end ProseTree.Reading
