import ProseTree.Proofs.Arithmetic.Spacing
import ProseTree.Proofs.Language.LineEnds
import ProseTree.Proofs.Reading.Spelling
import ProseTree.Proofs.Reading.TokenFate

/-!
# Readings and line ends

With a carriage return in front of every line feed a text is read into the same document, and the same gaps
are left with their returns. Every stage keeps to this as long as what stands behind it does. Line ends stand
between the tokens of a sentence and between candidates; inside a node they only stand in the source of an
expression over several lines, which is no part of a sentence and so becomes a gap.
-/

namespace ProseTree.Reading

open ProseTree.Language (BuiltIn Grammar)
open ProseTree.Text (withReturns withReturns_eq_self)
open ProseTree.Tree (Node)

variable {grammar : Grammar}

/-- A gap of a text with returns. -/
def Gap.withReturns (gap : Gap) : Gap :=
  { gap with text := Text.withReturns gap.text }

/-- The node of a text with returns. Only an expression remembers its line ends. -/
def nodeWithReturns : Node → Node
  | .expression source value => .expression (withReturns source) value
  | node => node

/-- The outcome of a text with returns. -/
def Outcome.withReturns (outcome : Outcome) : Outcome :=
  ⟨outcome.node.map nodeWithReturns, outcome.gaps.map Gap.withReturns⟩

/-- A gap of one line has no returns. -/
theorem Gap.withReturns_eq_self {gap : Gap} (noFeed : '\n' ∉ gap.text) : gap.withReturns = gap := by
  rw [withReturns, Text.withReturns_eq_self noFeed]

/-- A node has its kind with returns or without. -/
theorem kind_nodeWithReturns (node : Node) : (nodeWithReturns node).kind = node.kind := by
  cases node <;> rfl

/-- What stands behind a stage makes the same of a text with returns, but for the returns. -/
def Next.KeepsReturns (next : Next) : Prop :=
  ∀ text, next.read (withReturns text) = (next.read text).map Outcome.withReturns

/-- A stage makes the same of a text with returns, as long as what stands behind it does. -/
def Stage.KeepsReturns (stage : Stage) : Prop :=
  ∀ next : Next, next.KeepsReturns →
    ∀ text, stage.read (withReturns text) next = (stage.read text next).map Outcome.withReturns

section Inner

variable {next : Next} {text : Text} {outcome : Outcome}

/-- What becomes of one line has no returns. -/
theorem Next.KeepsReturns.withReturns_eq_self (keeps : next.KeepsReturns) (noFeed : '\n' ∉ text)
    (known : next.read text = .ok outcome) : outcome.withReturns = outcome := by
  have same := keeps text
  rw [Text.withReturns_eq_self noFeed, known] at same
  exact (Except.ok.inj same).symm

/-- White space makes a text no token, with returns or without. -/
theorem isToken_withReturns (text : Text) : isToken (withReturns text) = isToken text := by
  rw [isToken, isToken, Text.isEmpty_withReturns, Text.any_withReturns rfl]

/-- A token is on one line. -/
theorem noFeed_of_isToken (isOne : isToken text = true) : '\n' ∉ text := by
  intro member
  simp only [isToken, Bool.and_eq_true, Bool.not_eq_true'] at isOne
  exact absurd (Text.forall_eq_false_of_any isOne.2 _ member) (by decide)

/-- What the symbol stage makes of one line has no returns. -/
theorem withReturns_of_symbolOutcome? (spells : grammar.SpellsInSymbols) (noFeed : '\n' ∉ text)
    (found : symbolOutcome? grammar text = some outcome) : outcome.withReturns = outcome := by
  obtain ⟨symbol, -, rfl⟩ | ⟨-, rfl⟩ := symbolOutcome?_eq_some found
  · rfl
  · rw [droppedChars_eq_filter spells]
    have onLine : ∀ c ∈ text.filter (fun c => !grammar.isSymbolChar c),
        (droppedGap c).withReturns = droppedGap c := by
      intro c member
      refine Gap.withReturns_eq_self fun isFeed => noFeed ?_
      rw [List.mem_singleton.1 isFeed]
      exact (List.mem_filter.1 member).1
    simp only [Outcome.withReturns, Option.map_some, nodeWithReturns, List.map_map, Outcome.mk.injEq,
      true_and]
    exact List.map_congr_left onLine

theorem keepsReturns_symbolStage (spells : grammar.SpellsInSymbols) :
    (symbolStage grammar).KeepsReturns := by
  intro next keeps text
  simp only [symbolStage, isToken_withReturns]
  split
  · rename_i isOne
    have noFeed := noFeed_of_isToken isOne
    rw [withReturns_eq_self noFeed]
    cases found : symbolOutcome? grammar text with
    | none =>
      have same := keeps text
      rwa [withReturns_eq_self noFeed] at same
    | some outcome => exact congrArg Except.ok (withReturns_of_symbolOutcome? spells noFeed found).symm
  · exact keeps text

theorem keepsReturns_expressionStage
    (separate : ∀ c, Text.isBlank c = true → grammar.evaluator.operators.contains c = false) :
    (expressionStage grammar).KeepsReturns := by
  intro next keeps text
  simp only [expressionStage, Arithmetic.isPlain_withReturns separate,
    Arithmetic.value_withReturns separate]
  split
  · cases grammar.evaluator.value text with
    | error cause => exact keeps text
    | ok value => rfl
  · exact keeps text

/-- A word is on one line, so the word stage takes no text with a line feed. -/
theorem keepsReturns_wordStage {language : BuiltIn}
    (accepted : Grammar.ofConfiguration language.configuration = .ok grammar) :
    (wordStage grammar).KeepsReturns := by
  obtain ⟨letters, wordLetters, apart⟩ := spellsApart accepted
  have noWord : ∀ {text : Text}, '\n' ∈ text → wordNode? grammar text = none := by
    intro text member
    rw [wordNode?_eq_none_iff accepted]
    rintro word rfl
    exact absurd ((word.isSolid_text apart.classes apart.tokens).noBlank _ member) (by decide)
  intro next keeps text
  by_cases noFeed : '\n' ∉ text
  · have same := keeps text
    rw [withReturns_eq_self noFeed] at same ⊢
    simp only [wordStage]
    cases found : wordNode? grammar text with
    | none => exact same
    | some built =>
      obtain ⟨node, rfl, word⟩ := wordOutcome_of_wordNode? apart.classes found
      cases word <;> rfl
  · rw [Decidable.not_not] at noFeed
    have feedWith : '\n' ∈ withReturns text := by
      rw [← List.contains_iff_mem, Language.contains_feed_withReturns, List.contains_iff_mem]
      exact noFeed
    simp only [wordStage, noWord noFeed, noWord feedWith]
    exact keeps text

theorem keepsReturns_lexemeStage : lexemeStage.KeepsReturns := by
  intro next keeps text
  simp only [lexemeStage, isToken_withReturns]
  split
  · rename_i isOne
    have noFeed := noFeed_of_isToken isOne
    rw [withReturns_eq_self noFeed]
    cases known : next.read text with
    | error cause => rfl
    | ok outcome =>
      have same := keeps.withReturns_eq_self noFeed known
      have gaps : outcome.gaps.map Gap.withReturns = outcome.gaps := congrArg Outcome.gaps same
      have isLexeme : nodeWithReturns ∘ wrapToken text = wrapToken text := by
        funext node
        cases node <;> rfl
      simp only [Except.map, Outcome.withReturns, Option.map_map, isLexeme, gaps]
  · exact keeps text

end Inner

section Outer

/-- Nodes and gaps with returns are collected from texts with returns. -/
theorem collect_withReturns {readOne : Text → Except ParseError (List Node × List Gap)}
    {texts : List Text}
    (each : ∀ text ∈ texts, readOne (withReturns text) =
      (readOne text).map fun (nodes, gaps) => (nodes, gaps.map Gap.withReturns)) :
    collect readOne (texts.map withReturns) =
      (collect readOne texts).map fun (nodes, gaps) => (nodes, gaps.map Gap.withReturns) := by
  induction texts with
  | nil => rfl
  | cons text texts inductionHypothesis =>
    obtain ⟨first, others⟩ := List.forall_mem_cons.1 each
    rw [List.map_cons, collect, collect, first, inductionHypothesis others]
    cases readOne text with
    | error cause => rfl
    | ok placed =>
      obtain ⟨nodes, gaps⟩ := placed
      cases collect readOne texts with
      | error cause => rfl
      | ok following => simp [Except.map]

/-- A candidate with returns is misplaced like the candidate without them. -/
theorem misplaced_withReturns (stage candidate : Text) (node : Option Node) :
    misplaced stage (withReturns candidate) (node.map nodeWithReturns) =
      (misplaced stage candidate node).withReturns := by
  cases node with
  | none => rfl
  | some node => simp [misplaced, kind_nodeWithReturns, Gap.withReturns]

/-- A sentence stays a sentence, and any other candidate a gap. -/
theorem placeSentence_withReturns (candidate : Text) (outcome : Outcome) :
    placeSentence (withReturns candidate) outcome.withReturns =
      ((placeSentence candidate outcome).1, (placeSentence candidate outcome).2.map Gap.withReturns) := by
  obtain ⟨node, gaps⟩ := outcome
  have other := misplaced_withReturns paragraphName candidate node
  cases node with
  | none => simp [placeSentence, Outcome.withReturns, ← other]
  | some node => cases node <;> simp [placeSentence, Outcome.withReturns, nodeWithReturns, ← other]

/-- A paragraph stays a paragraph, and any other candidate a gap or nothing. -/
theorem placeParagraph_withReturns (candidate : Text) (outcome : Outcome) :
    placeParagraph (withReturns candidate) outcome.withReturns =
      ((placeParagraph candidate outcome).1, (placeParagraph candidate outcome).2.map Gap.withReturns) := by
  obtain ⟨node, gaps⟩ := outcome
  have other := misplaced_withReturns documentName candidate node
  cases node with
  | none => cases gaps <;> simp [placeParagraph, Outcome.withReturns, ← other]
  | some node => cases node <;> simp [placeParagraph, Outcome.withReturns, nodeWithReturns, ← other]

variable {next : Next}

/-- Candidates with returns are placed like the candidates without them. -/
theorem Next.KeepsReturns.collect (keeps : next.KeepsReturns)
    {place : Text → Outcome → List Node × List Gap}
    (placed : ∀ candidate outcome, place (withReturns candidate) outcome.withReturns =
      ((place candidate outcome).1, (place candidate outcome).2.map Gap.withReturns))
    (candidates : List Text) :
    Reading.collect (fun candidate => (next.read candidate).map (place candidate))
        (candidates.map withReturns) =
      (Reading.collect (fun candidate => (next.read candidate).map (place candidate)) candidates).map
        fun (nodes, gaps) => (nodes, gaps.map Gap.withReturns) := by
  apply collect_withReturns
  intro candidate _
  rw [keeps candidate]
  cases next.read candidate with
  | error cause => rfl
  | ok outcome => exact congrArg Except.ok (placed candidate outcome)

/-- What is left of the tokens of a text has no returns, since each token is on one line. -/
theorem Next.KeepsReturns.map_gaps_of_tokens (keeps : next.KeepsReturns) {body : Text}
    {lexemes : List Node} {gaps : List Gap}
    (collected : Reading.collect (fun token => (next.read token).map (placeLexeme token))
      (Text.tokens body) = .ok (lexemes, gaps)) : gaps.map Gap.withReturns = gaps := by
  have onLine : ∀ token ∈ Text.tokens body, '\n' ∉ token := fun token member =>
    noFeed_of_isToken (isToken_of_mem_tokens member)
  have unchanged : (Text.tokens body).map withReturns = Text.tokens body := by
    rw [List.map_congr_left fun token member => Text.withReturns_eq_self (onLine token member)]
    exact List.map_id _
  have again : Reading.collect (fun token => (next.read token).map (placeLexeme token))
      ((Text.tokens body).map withReturns) =
        (Reading.collect (fun token => (next.read token).map (placeLexeme token)) (Text.tokens body)).map
          fun (nodes, gaps) => (nodes, gaps.map Gap.withReturns) := by
    apply collect_withReturns
    intro token member
    have noFeed := onLine token member
    rw [Text.withReturns_eq_self noFeed]
    cases known : next.read token with
    | error cause => rfl
    | ok outcome =>
      have same : outcome.gaps.map Gap.withReturns = outcome.gaps :=
        congrArg Outcome.gaps (keeps.withReturns_eq_self noFeed known)
      have lost : (Gap.mk sentenceName token .unrecognized).withReturns =
          ⟨sentenceName, token, .unrecognized⟩ := Gap.withReturns_eq_self noFeed
      unfold placeLexeme
      simp only [Except.map]
      split <;> simp [same, lost]
  rw [unchanged, collected] at again
  exact (congrArg Prod.snd (Except.ok.inj again)).symm

theorem keepsReturns_sentenceStage (apart : grammar.SetsMarksApart) :
    (sentenceStage grammar).KeepsReturns := by
  intro next keeps text
  simp only [sentenceStage, Text.trim_withReturns, Grammar.startsSentence_withReturns apart,
    Grammar.splitTerminator?_withReturns apart]
  split
  · cases grammar.splitTerminator? (Text.trim text) with
    | none => exact keeps (Text.trim text)
    | some parts =>
      obtain ⟨body, mark⟩ := parts
      simp only [Option.map_some, Text.tokens_withReturns]
      cases collected : Reading.collect (fun token => (next.read token).map (placeLexeme token))
        (Text.tokens body) with
      | error cause => rfl
      | ok placed =>
        obtain ⟨lexemes, gaps⟩ := placed
        cases Node.symbolOfText grammar mark with
        | error cause => rfl
        | ok symbol =>
          simp [Except.map, Outcome.withReturns, nodeWithReturns, keeps.map_gaps_of_tokens collected]
  · exact keeps (Text.trim text)

/-- A paragraph has its body with returns or without. -/
theorem paragraphBody?_withReturns (onLine : grammar.IndentsOnLine) (text : Text) :
    paragraphBody? grammar (withReturns text) = (paragraphBody? grammar text).map withReturns := by
  rw [paragraphBody?, paragraphBody?, Grammar.unindented?_withReturns onLine]
  cases grammar.unindented? text with
  | some body => rfl
  | none =>
    simp only [Option.map_none, Text.trim_withReturns]
    split <;> rfl

theorem keepsReturns_paragraphStage (apart : grammar.SetsMarksApart) (onLine : grammar.IndentsOnLine) :
    (paragraphStage grammar).KeepsReturns := by
  intro next keeps text
  simp only [paragraphStage, paragraphBody?_withReturns onLine]
  cases paragraphBody? grammar text with
  | none => exact keeps text
  | some body =>
    simp only [Option.map_some, Grammar.sentenceCandidates_withReturns apart,
      keeps.collect placeSentence_withReturns]
    cases Reading.collect (fun candidate => (next.read candidate).map (placeSentence candidate))
      (grammar.sentenceCandidates body) with
    | error cause => rfl
    | ok placed =>
      simp only [Except.map, Outcome.withReturns]
      split <;> rfl

end Outer

section Chains

/-- A chain of stages that keep to the returns keeps to them. -/
theorem Chain.keepsReturns {chain : Chain} (stages : ∀ stage ∈ chain, stage.KeepsReturns) :
    chain.toNext.KeepsReturns := by
  induction chain with
  | nil => exact fun _ => rfl
  | cons stage chain inductionHypothesis =>
    obtain ⟨first, others⟩ := List.forall_mem_cons.1 stages
    exact first _ (inductionHypothesis others)

variable {language : BuiltIn}

/-- The stages that read a paragraph keep to the returns. -/
theorem keepsReturns_paragraphChain
    (accepted : Grammar.ofConfiguration language.configuration = .ok grammar) :
    (paragraphChain grammar).toNext.KeepsReturns := by
  have apart := BuiltIn.setsMarksApart accepted
  apply Chain.keepsReturns
  simp only [paragraphChain, sentenceChain, tokenChain, coreChain, List.forall_mem_cons]
  exact ⟨keepsReturns_paragraphStage apart (BuiltIn.indentsOnLine accepted),
    keepsReturns_sentenceStage apart, keepsReturns_lexemeStage, keepsReturns_wordStage accepted,
    keepsReturns_expressionStage (BuiltIn.operators_separate accepted),
    keepsReturns_symbolStage (BuiltIn.spellsInSymbols accepted), by simp⟩

/-- Under a built-in grammar a text without carriage returns is read into the same document when every line
feed gets one, and the same gaps are left in the same order, with the returns in their texts. -/
theorem readDocument_withReturns
    (accepted : Grammar.ofConfiguration language.configuration = .ok grammar)
    (before after : Schedule) {text : Text} (noReturn : '\r' ∉ text) :
    ∃ reading, (standardChain grammar before).readDocument text = .ok reading ∧
      (standardChain grammar after).readDocument (withReturns text) =
        .ok ⟨reading.document, reading.gaps.map Gap.withReturns⟩ := by
  obtain ⟨letters, wordLetters, classes⟩ := Grammar.exists_classes accepted language.hasPlainLetters
  obtain ⟨paragraphs, gaps, read, placed⟩ := exists_readDocument classes before text
  have collected := collect_eq_ok_iff.2 placed
  have keeps := (keepsReturns_paragraphChain accepted).collect placeParagraph_withReturns
    (Language.paragraphCandidates text)
  refine ⟨_, read, ?_⟩
  rw [readDocument_eq_collect, Language.paragraphCandidates_withReturns noReturn]
  simp only [Chain.toNext] at keeps
  rw [keeps, collected]
  rfl

/-- An English paragraph whose second line starts an expression that ends on the third one. -/
theorem readDocument_withReturns_english :
    ∃ grammar reading, Grammar.ofConfiguration .english = .ok grammar ∧
      '\r' ∉ "\tOne.\n1 +\n2".toList ∧
      (standardChain grammar .sequential).readDocument "\tOne.\n1 +\n2" = .ok reading ∧
      reading.gaps = [⟨paragraphName, "1 +\n2", .unexpectedKind .expression⟩] ∧
      (standardChain grammar {}).readDocument "\tOne.\r\n1 +\r\n2" =
        .ok ⟨reading.document, [⟨paragraphName, "1 +\r\n2", .unexpectedKind .expression⟩]⟩ := by
  obtain ⟨grammar, accepted⟩ := BuiltIn.english.exists_ofConfiguration
  have noReturn : '\r' ∉ "\tOne.\n1 +\n2".toList := by decide
  obtain ⟨reading, read, readWith⟩ := readDocument_withReturns accepted .sequential {} noReturn
  have gaps : ((standardChain grammar .sequential).readDocument "\tOne.\n1 +\n2").toOption.map Reading.gaps =
      some [⟨paragraphName, "1 +\n2", .unexpectedKind .expression⟩] :=
    Grammar.eq_of_computed accepted
      (fun grammar => ((standardChain grammar .sequential).readDocument "\tOne.\n1 +\n2").toOption.map
        Reading.gaps) (by decide +kernel)
  rw [read] at gaps
  have onlyGap : reading.gaps = [⟨paragraphName, "1 +\n2", .unexpectedKind .expression⟩] :=
    Option.some.inj gaps
  rw [onlyGap] at readWith
  exact ⟨grammar, reading, accepted, noReturn, read, onlyGap, readWith⟩

end Chains

end ProseTree.Reading
