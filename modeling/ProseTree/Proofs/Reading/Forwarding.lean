import ProseTree.Proofs.Language.Phrase
import ProseTree.Proofs.Reading.Exchange

/-!
# What stages hand on

A stage recognises a text or hands it on, and which of the two it does depends on the text alone: on an
indent, on the start and the end of a sentence, on white space, on words, values and symbols, but never on
what stands behind the stage. Of a text that is handed on becomes what the rest of the chain makes of it; the
stage adds no node and no gap.

All stages but one hand on the text as it is. The sentence stage looks for a sentence between the white space
around the text, and this is also what it hands on where it finds none. The stages behind it see a text
without white space around it, and their gaps name this text.
-/

namespace ProseTree.Reading

open ProseTree.Language (BuiltIn Grammar)
open ProseTree.Tree (Kind Node)

variable {grammar : Grammar} {text : Text}

/-- The stage that makes nodes of a kind, with a schedule of the paragraphs. -/
def stageOf (grammar : Grammar) (schedule : Schedule) : Kind → Stage
  | .document => documentStage schedule
  | .paragraph => paragraphStage grammar
  | .sentence => sentenceStage grammar
  | .lexeme => lexemeStage
  | .word => wordStage grammar
  | .symbol => symbolStage grammar
  | .expression => expressionStage grammar

/-- The stage of a kind goes by the name of the kind. -/
theorem stageOfName?_name (grammar : Grammar) (schedule : Schedule) (kind : Kind) :
    stageOfName? grammar schedule kind.name = some (stageOf grammar schedule kind) := by
  cases kind <;> rfl

/-- A text is recognised by the stage of a kind: any text is a document; a paragraph has an indent where it
needs one; a sentence has a start and a terminator between the white space around it; a lexeme is
one token; a word may have marks around it; an expression is plain and has a value; and symbols are kept
of a token that holds one. -/
def Recognizes (grammar : Grammar) (text : Text) : Kind → Prop
  | .document => True
  | .paragraph => grammar.requireIndent = false ∨ ∃ marker ∈ grammar.indentMarkers, marker <+: text
  | .sentence =>
    grammar.startsSentence (Text.trim text) = true ∧
      (grammar.ellipsis <:+ Text.trim text ∨ grammar.EndsInTerminator (Text.trim text))
  | .lexeme => text.IsSolid
  | .word =>
    grammar.isWord text = true ∨ (∃ parts, grammar.wordWithPunctuation? text = some parts) ∨
      ∃ decorated, grammar.decoratedWord? text = some decorated
  | .symbol =>
    text.IsSolid ∧ (grammar.ellipsis <:+: text ∨ ∃ c ∈ text, grammar.isSymbolChar c = true)
  | .expression => HasValue grammar text

/-- What starts no sentence is none. -/
theorem not_recognizes_of_noStart (noStart : grammar.startsSentence (Text.trim text) = false) :
    ¬ Recognizes grammar text .sentence := by
  rintro ⟨starts, -⟩
  rw [noStart] at starts
  cases starts

/-- What the stage of a kind hands on of a text that it does not recognise. -/
def handedOn (text : Text) : Kind → Text
  | .sentence => Text.trim text
  | _ => text

/-- A text without white space around it is handed on as it is, and by stages other than the sentence stage
so is any text. -/
theorem handedOn_eq_self {kind : Kind} (untrimmed : kind = .sentence → Text.trim text = text) :
    handedOn text kind = text := by
  cases kind with
  | sentence => exact untrimmed rfl
  | document | paragraph | lexeme | word | symbol | expression => rfl

/-- A stage makes of a text what stands behind it makes of another one, whatever stands there. -/
def Stage.HandsOn (stage : Stage) (text other : Text) : Prop :=
  ∀ next : Next, stage.read text next = next.read other

section Recognition

/-- A paragraph candidate has no body exactly when it lacks an indent that it needs. -/
theorem paragraphBody?_eq_none_iff :
    paragraphBody? grammar text = none ↔ ¬ Recognizes grammar text .paragraph := by
  have indented : grammar.unindented? text = none ↔
      ¬ ∃ marker ∈ grammar.indentMarkers, marker <+: text := by
    simp only [Grammar.unindented?, Option.map_eq_none_iff, List.findSome?_eq_none_iff,
      Text.dropBeginning?_eq_none_iff, not_exists, not_and]
  unfold paragraphBody? Recognizes
  rw [not_or, ← indented]
  cases grammar.unindented? text <;> simp

/-- A text has no terminator to split off exactly when it ends neither with the ellipsis nor with a
terminator character. -/
theorem splitTerminator?_eq_none_iff : grammar.splitTerminator? text = none ↔
    ¬ (grammar.ellipsis <:+ text ∨ grammar.EndsInTerminator text) := by
  constructor
  · intro missing
    have noEllipsis : ¬ grammar.ellipsis <:+ text := by
      rintro ⟨before, rfl⟩
      rw [Grammar.splitTerminator?_append (.inl rfl) (.inl rfl)] at missing
      cases missing
    rintro (ellipsis | ⟨c, last, terminator⟩)
    · exact noEllipsis ellipsis
    · obtain ⟨before, rfl⟩ := List.getLast?_eq_some_iff.1 last
      rw [Grammar.splitTerminator?_append (.inr ⟨c, rfl, terminator⟩) (.inr noEllipsis)] at missing
      cases missing
  · intro noMark
    rw [Option.eq_none_iff_forall_ne_some]
    rintro ⟨body, mark⟩ split
    obtain ⟨before, rfl, -, rfl | ⟨c, rfl, terminator⟩, -⟩ := Grammar.splitTerminator?_eq_some split
    · exact noMark (.inl (List.suffix_append _ _))
    · exact noMark (.inr ⟨c, by simp, terminator⟩)

/-- A token is what is not empty and holds no white space. -/
theorem isToken_iff : isToken text = true ↔ text.IsSolid := by
  refine ⟨fun isOne => ?_, isToken_of_isSolid⟩
  obtain ⟨nonempty, noBlank⟩ := Bool.and_eq_true_iff.1 isOne
  exact ⟨by simpa using nonempty, Text.forall_eq_false_of_any (by simpa using noBlank)⟩

/-- The word stage has no node for a text exactly when it is no word, with or without marks. -/
theorem wordNode?_eq_none_iff_not_recognizes :
    wordNode? grammar text = none ↔ ¬ Recognizes grammar text .word := by
  unfold wordNode? Recognizes
  cases grammar.isWord text with
  | true => simp
  | false =>
    cases grammar.wordWithPunctuation? text with
    | some parts => simp
    | none => cases grammar.decoratedWord? text <;> simp

/-- The symbol stage keeps nothing of a text exactly when there is nothing to keep. -/
theorem symbolOutcome?_eq_none_iff : symbolOutcome? grammar text = none ↔
    ¬ (grammar.ellipsis <:+: text ∨ ∃ c ∈ text, grammar.isSymbolChar c = true) := by
  rw [← keptSymbols_eq_nil_iff]
  refine ⟨keptSymbols_of_symbolOutcome?, fun nothing => ?_⟩
  rw [Option.eq_none_iff_forall_ne_some]
  intro outcome found
  obtain ⟨symbol, single, -⟩ | ⟨nonempty, -⟩ := symbolOutcome?_eq_some found
  · rw [single] at nothing
    cases nothing
  · exact nonempty nothing

end Recognition

section Stages

/-- Of a text that its first stage hands on a chain makes what the other stages make of what is handed on. -/
theorem Stage.HandsOn.read_cons {stage : Stage} {other : Text} (handsOn : stage.HandsOn text other)
    (rest : Chain) : Chain.read (stage :: rest) text = rest.read other :=
  handsOn (Chain.toNext rest)

theorem forwards_paragraphStage (missing : ¬ Recognizes grammar text .paragraph) :
    (paragraphStage grammar).Forwards text := by
  intro next
  simp only [paragraphStage, paragraphBody?_eq_none_iff.2 missing]

theorem handsOn_sentenceStage (missing : ¬ Recognizes grammar text .sentence) :
    (sentenceStage grammar).HandsOn text (Text.trim text) := by
  intro next
  simp only [sentenceStage]
  split
  · rename_i starts
    have noMark : ¬ (grammar.ellipsis <:+ Text.trim text ∨ grammar.EndsInTerminator (Text.trim text)) :=
      fun ends => missing ⟨starts, ends⟩
    rw [splitTerminator?_eq_none_iff.2 noMark]
  · rfl

theorem forwards_lexemeStage (missing : ¬ text.IsSolid) : lexemeStage.Forwards text := by
  intro next
  rw [← isToken_iff] at missing
  simp only [lexemeStage, missing, Bool.false_eq_true, if_false]

theorem forwards_symbolStage (missing : ¬ Recognizes grammar text .symbol) :
    (symbolStage grammar).Forwards text := by
  intro next
  simp only [symbolStage]
  split
  · rename_i isOne
    have nothing := fun holds => missing ⟨isToken_iff.1 isOne, holds⟩
    rw [symbolOutcome?_eq_none_iff.2 nothing]
  · rfl

/-- Each stage hands on what it does not recognise. -/
theorem handsOn_stageOf (schedule : Schedule) {kind : Kind} (missing : ¬ Recognizes grammar text kind) :
    (stageOf grammar schedule kind).HandsOn text (handedOn text kind) := by
  cases kind with
  | document => exact absurd trivial missing
  | paragraph => exact forwards_paragraphStage missing
  | sentence => exact handsOn_sentenceStage missing
  | lexeme => exact forwards_lexemeStage missing
  | word => exact forwards_wordStage (wordNode?_eq_none_iff_not_recognizes.2 missing)
  | symbol => exact forwards_symbolStage missing
  | expression => exact forwards_expressionStage missing

/-- Stages that do not recognise a text without white space around it leave it to what stands behind all of
them. -/
theorem read_map_stageOf_append (schedule : Schedule) (trimmed : Text.trim text = text) {kinds : List Kind}
    (missing : ∀ kind ∈ kinds, ¬ Recognizes grammar text kind) (rest : Chain) :
    Chain.read (kinds.map (stageOf grammar schedule) ++ rest) text = rest.read text := by
  induction kinds with
  | nil => rfl
  | cons kind kinds inductionHypothesis =>
    obtain ⟨first, others⟩ := List.forall_mem_cons.1 missing
    rw [List.map_cons, List.cons_append, (handsOn_stageOf schedule first).read_cons,
      handedOn_eq_self fun _ => trimmed, inductionHypothesis others]

/-- The stage that takes every text for the same node. -/
def constantStage (node : Node) : Stage where
  name := node.kind.name
  read _ _ := .ok (.clean node)

/-- The stage that takes every text for a word, without a look at the grammar. -/
def echoStage : Stage where
  name := wordName
  read text _ := .ok (.clean (.word text))

/-- What a text is taken for there tells the text. -/
theorem eq_of_read_echoStage {other : Text}
    (same : Chain.read [echoStage] text = Chain.read [echoStage] other) : text = other := by
  simpa [Chain.read_cons, echoStage, Outcome.clean] using same

/-- A document comes out of every text. -/
theorem documentStage_read_ne (schedule : Schedule) (next : Next) :
    (documentStage schedule).read text next ≠ .ok .unrecognized := by
  intro same
  simp only [documentStage] at same
  cases placed : placeParagraphs ((Language.paragraphCandidates text).zip
      (schedule.map next.read (Language.paragraphCandidates text))) with
  | error cause =>
    rw [placed] at same
    cases same
  | ok parts =>
    rw [placed] at same
    cases same

/-- A paragraph is a paragraph or nothing, whatever its sentences become. -/
theorem paragraphStage_read_ne (recognized : Recognizes grammar text .paragraph) (next : Next) :
    (paragraphStage grammar).read text next ≠ .ok (.clean (.document [])) := by
  intro same
  cases found : paragraphBody? grammar text with
  | none => exact paragraphBody?_eq_none_iff.1 found recognized
  | some body =>
    simp only [paragraphStage, found] at same
    cases collected : collect (fun candidate => (next.read candidate).map (placeSentence candidate))
        (grammar.sentenceCandidates body) with
    | error cause =>
      rw [collected] at same
      cases same
    | ok parts =>
      rw [collected] at same
      have isNode := congrArg (Except.map Outcome.node) same
      simp only [Except.map, Outcome.clean] at isNode
      split at isNode <;> cases isNode

/-- A sentence comes out of what has a start and a terminator. -/
theorem sentenceStage_read_ne (recognized : Recognizes grammar text .sentence) (next : Next) :
    (sentenceStage grammar).read text next ≠ .ok .unrecognized := by
  obtain ⟨starts, ends⟩ := recognized
  intro same
  cases split : grammar.splitTerminator? (Text.trim text) with
  | none => exact splitTerminator?_eq_none_iff.1 split ends
  | some parts =>
    simp only [sentenceStage, starts, if_true, split] at same
    split at same
    · cases same
    · split at same <;> cases same

/-- A lexeme comes out of a token of which something comes back. -/
theorem lexemeStage_read_ne (solid : text.IsSolid) {node : Node} {next : Next}
    (read : next.read text = .ok (.clean node)) (isElse : node.kind ≠ .lexeme) :
    lexemeStage.read text next ≠ .ok (.clean node) := by
  intro same
  simp only [lexemeStage, isToken_of_isSolid solid, if_true, read] at same
  cases node <;> cases same
  exact isElse rfl

/-- A word comes out of what is one, with or without marks. -/
theorem wordStage_read_ne (recognized : Recognizes grammar text .word) (next : Next) :
    (wordStage grammar).read text next ≠ .ok .unrecognized := by
  intro same
  cases found : wordNode? grammar text with
  | none => exact wordNode?_eq_none_iff_not_recognizes.1 found recognized
  | some built =>
    simp only [wordStage, found] at same
    cases built <;> cases same

/-- Symbols come out of a token that holds one. -/
theorem symbolStage_read_ne (recognized : Recognizes grammar text .symbol) (next : Next) :
    (symbolStage grammar).read text next ≠ .ok .unrecognized := by
  obtain ⟨solid, holds⟩ := recognized
  intro same
  cases found : symbolOutcome? grammar text with
  | none => exact symbolOutcome?_eq_none_iff.1 found holds
  | some outcome =>
    simp only [symbolStage, isToken_of_isSolid solid, if_true, found] at same
    obtain ⟨symbol, -, rfl⟩ | ⟨-, rfl⟩ := symbolOutcome?_eq_some found
    · cases same
    · cases same

/-- An expression comes out of what has a value. -/
theorem expressionStage_read_ne (recognized : HasValue grammar text) (next : Next) :
    (expressionStage grammar).read text next ≠ .ok .unrecognized := by
  obtain ⟨value, takes⟩ := takes_expressionStage recognized
  rw [takes next]
  intro same
  cases same

/-- Each stage makes of what it recognises something that some stages behind it make of no text. -/
theorem exists_read_cons_ne (schedule : Schedule) {kind : Kind} (recognized : Recognizes grammar text kind) :
    ∃ rest : Chain, ∀ other, Chain.read (stageOf grammar schedule kind :: rest) text ≠ rest.read other := by
  -- A stage that looks at what comes back needs something that does, so that it can be told from it.
  cases kind with
  | document => exact ⟨[], fun _ => documentStage_read_ne schedule _⟩
  | paragraph => exact ⟨[constantStage (.document [])], fun _ => paragraphStage_read_ne recognized _⟩
  | sentence => exact ⟨[], fun _ => sentenceStage_read_ne recognized _⟩
  | lexeme =>
    exact ⟨[constantStage (.document [])], fun _ => lexemeStage_read_ne recognized rfl (by decide)⟩
  | word => exact ⟨[], fun _ => wordStage_read_ne recognized _⟩
  | symbol => exact ⟨[], fun _ => symbolStage_read_ne recognized _⟩
  | expression => exact ⟨[], fun _ => expressionStage_read_ne recognized _⟩

end Stages

section Transparency

/-- A stage hands a text on exactly when it does not recognise it, whatever stands behind the stage. What
comes back is then what the rest of the chain makes of the text, without the white space around it if the
stage is the sentence stage: so this stage is as good as left out exactly on texts that it does not recognise
and that have no such white space, and any other stage on all texts that it does not recognise. -/
theorem read_stageOf_cons_iff (grammar : Grammar) (schedule : Schedule) (kind : Kind) (text : Text) :
    ((∀ rest : Chain,
        Chain.read (stageOf grammar schedule kind :: rest) text = rest.read (handedOn text kind)) ↔
      ¬ Recognizes grammar text kind) ∧
    ((∀ rest : Chain, Chain.read (stageOf grammar schedule kind :: rest) text = rest.read text) ↔
      ¬ Recognizes grammar text kind ∧ (kind = .sentence → Text.trim text = text)) := by
  have missing_of_same : ∀ {other}, (∀ rest : Chain,
      Chain.read (stageOf grammar schedule kind :: rest) text = rest.read other) →
      ¬ Recognizes grammar text kind := by
    intro other same recognized
    obtain ⟨rest, differs⟩ := exists_read_cons_ne schedule recognized
    exact differs other (same rest)
  refine ⟨⟨missing_of_same, fun missing => (handsOn_stageOf schedule missing).read_cons⟩, ⟨?_, ?_⟩⟩
  · intro same
    have missing := missing_of_same same
    refine ⟨missing, ?_⟩
    rintro rfl
    have echoed := (handsOn_stageOf schedule missing).read_cons [echoStage]
    rw [same [echoStage]] at echoed
    exact (eq_of_read_echoStage echoed).symm
  · rintro ⟨missing, untrimmed⟩ rest
    rw [(handsOn_stageOf schedule missing).read_cons, handedOn_eq_self untrimmed]

/-- The English sentence stage hands on a word without the space in front of it, so that the word stage
behind it finds the word, which it does not find by itself. -/
theorem sentenceStage_hands_on_trimmed :
    ¬ ∀ (language : BuiltIn) (grammar : Grammar),
      Grammar.ofConfiguration language.configuration = .ok grammar →
      ∀ (schedule : Schedule) (kind : Kind) (text : Text) (rest : Chain), ¬ Recognizes grammar text kind →
        Chain.read (stageOf grammar schedule kind :: rest) text = rest.read text := by
  intro transparent
  obtain ⟨grammar, accepted⟩ := BuiltIn.english.exists_ofConfiguration
  have missing : ¬ Recognizes grammar " fox" .sentence :=
    not_recognizes_of_noStart (Grammar.eq_of_computed accepted
      (fun grammar => grammar.startsSentence (Text.trim " fox")) (by decide +kernel))
  have isWord : grammar.isWord "fox" = true :=
    Grammar.eq_of_computed accepted (fun grammar => grammar.isWord "fox") (by decide +kernel)
  have noWord : (wordNode? grammar " fox").isSome = false :=
    Grammar.eq_of_computed accepted (fun grammar => (wordNode? grammar " fox").isSome) (by decide +kernel)
  have same := transparent .english grammar accepted .sequential .sentence " fox" [wordStage grammar] missing
  rw [(handsOn_stageOf .sequential missing).read_cons] at same
  have forwards := forwards_wordStage (Option.isNone_iff_eq_none.1 (Option.isSome_eq_false_iff.1 noWord))
  rw [forwards.read_cons] at same
  exact wordStage_read_ne (.inl isWord) (Chain.toNext []) same

end Transparency

end ProseTree.Reading
