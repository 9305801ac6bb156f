import ProseTree.Language.Word
import ProseTree.Tree.Document

/-!
# Well-formed documents

A tree built by hand may nest nodes in any way; in a document that was read every node has its place.
This module says what stands where, level by level, and derives that the counts that go through the
whole tree are the lengths of the lists that look at one level.
-/

namespace ProseTree.Tree

open ProseTree.Language (Grammar)

/-- A symbol that belongs to the grammar: its ellipsis, or a character that can be a symbol. -/
def Symbol.BelongsTo (grammar : Grammar) : Symbol → Prop
  | .char c => grammar.isSymbolChar c = true
  | .ellipsis text => text = grammar.ellipsis

/-- A symbol that can end a sentence: the ellipsis of the grammar, or a terminator. -/
def Symbol.EndsSentence (grammar : Grammar) (symbol : Symbol) : Prop :=
  symbol = .ellipsis grammar.ellipsis ∨ ∃ c, symbol = .char c ∧ grammar.isTerminator c = true

/-- A symbol that can end a sentence belongs to the grammar. -/
theorem Symbol.EndsSentence.belongsTo {grammar : Grammar} {symbol : Symbol}
    (ends : symbol.EndsSentence grammar) : symbol.BelongsTo grammar := by
  obtain rfl | ⟨c, rfl, terminator⟩ := ends
  · rfl
  · simp [BelongsTo, Grammar.isSymbolChar, Grammar.isPunctuation, terminator]

/-- The children of a lexeme: a word, a decorated word, an expression with its value, or a run of
symbols. -/
inductive LexemeChildren (grammar : Grammar) (source : Text) : List Node → Prop
  | word (isWord : grammar.isWord source = true) : LexemeChildren grammar source [.word source]
  | decorated {opening closing trailing : Option Symbol} {word : Text}
      (isWord : grammar.isWord word = true)
      (opens : ∀ symbol ∈ opening, symbol.BelongsTo grammar)
      (closes : ∀ symbol ∈ closing, symbol.BelongsTo grammar)
      (trails : ∀ symbol ∈ trailing, symbol.BelongsTo grammar) :
      LexemeChildren grammar source
        (opening.toList.map .symbol ++ .word word :: (closing.toList ++ trailing.toList).map .symbol)
  | expression {value : Float} (isPlain : grammar.evaluator.isPlain source = true)
      (evaluated : grammar.evaluator.evaluate source = .ok value) :
      LexemeChildren grammar source [.expression source value]
  | run {symbols : List Symbol} (nonempty : symbols ≠ [])
      (belong : ∀ symbol ∈ symbols, symbol.BelongsTo grammar) :
      LexemeChildren grammar source (symbols.map .symbol)

/-- A lexeme that stands for a text without white space. -/
inductive IsLexeme (grammar : Grammar) : Node → Prop
  | intro {source : Text} {children : List Node} (nonempty : source ≠ [])
      (solid : ∀ c ∈ source, Text.isBlank c = false)
      (parts : LexemeChildren grammar source children) : IsLexeme grammar (.lexeme source children)

/-- A sentence of lexemes and the one symbol that ends it. -/
inductive IsSentence (grammar : Grammar) : Node → Prop
  | intro {lexemes : List Node} {symbol : Symbol} (each : ∀ node ∈ lexemes, IsLexeme grammar node)
      (belongs : symbol.BelongsTo grammar) (ends : symbol.EndsSentence grammar) :
      IsSentence grammar (.sentence (lexemes ++ [.symbol symbol]))

/-- A paragraph of sentences, at least one. -/
inductive IsParagraph (grammar : Grammar) : Node → Prop
  | intro {sentences : List Node} (nonempty : sentences ≠ [])
      (each : ∀ node ∈ sentences, IsSentence grammar node) :
      IsParagraph grammar (.paragraph sentences)

/-- A document of paragraphs. -/
def Document.WellFormed (grammar : Grammar) (document : Document) : Prop :=
  ∀ node ∈ document.children, IsParagraph grammar node

namespace Node

mutual

/-- The words of a tree are as many as its word leaves. -/
theorem length_words : ∀ node : Node, node.words.length = node.count .word
  | .document children => by simp [words, count, length_wordsAll children]
  | .paragraph children => by simp [words, count, length_wordsAll children]
  | .sentence children => by simp [words, count, length_wordsAll children]
  | .lexeme _ children => by simp [words, count, length_wordsAll children]
  | .word _ => rfl
  | .symbol _ => rfl
  | .expression _ _ => rfl

/-- The words of several trees are as many as their word leaves. -/
theorem length_wordsAll : ∀ nodes : List Node, (wordsAll nodes).length = countAll .word nodes
  | [] => rfl
  | node :: nodes => by
    simp [wordsAll, countAll, length_words node, length_wordsAll nodes]

end

variable {kind : Kind} {nodes : List Node}

/-- Trees with the same number of nodes of a kind have this number for every tree. -/
theorem countAll_eq_mul {count : Nat} (each : ∀ node ∈ nodes, node.count kind = count) :
    countAll kind nodes = nodes.length * count := by
  induction nodes with
  | nil => simp [countAll]
  | cons node nodes inductionHypothesis =>
    obtain ⟨first, others⟩ := List.forall_mem_cons.1 each
    rw [countAll, first, inductionHypothesis others, List.length_cons, Nat.succ_mul, Nat.add_comm]

/-- The trees of items with the same number of nodes of a kind have this number for every item. -/
theorem countAll_map_eq_mul {α : Type} {node : α → Node} {count : Nat}
    (each : ∀ item, (node item).count kind = count) (items : List α) :
    countAll kind (items.map node) = items.length * count := by
  rw [countAll_eq_mul (List.forall_mem_map.2 fun item _ => each item), List.length_map]

/-- Trees that have as many nodes of a kind as their items have parts count the parts of all items. -/
theorem countAll_map {α β : Type} {node : α → Node} {parts : α → List β}
    (each : ∀ item, (node item).count kind = (parts item).length) (items : List α) :
    countAll kind (items.map node) = (items.flatMap parts).length := by
  induction items with
  | nil => rfl
  | cons item items inductionHypothesis =>
    rw [List.map_cons, countAll, each, inductionHypothesis, List.flatMap_cons, List.length_append]

/-- The nodes of two lists of trees are counted apart. -/
theorem countAll_append (more : List Node) :
    countAll kind (nodes ++ more) = countAll kind nodes + countAll kind more := by
  induction nodes with
  | nil => simp [countAll]
  | cons node nodes inductionHypothesis =>
    simp only [List.cons_append, countAll, inductionHypothesis]
    omega

/-- Trees have no node of a kind when none of them has one. -/
theorem countAll_eq_zero_iff : countAll kind nodes = 0 ↔ ∀ node ∈ nodes, node.count kind = 0 := by
  induction nodes with
  | nil => simp [countAll]
  | cons node nodes inductionHypothesis =>
    rw [countAll, Nat.add_eq_zero_iff, inductionHypothesis, List.forall_mem_cons]

end Node

variable {grammar : Grammar} {node : Node} {kind : Kind}

/-- Below a lexeme stand leaves only. -/
theorem LexemeChildren.isLeaf {source : Text} {children : List Node}
    (parts : LexemeChildren grammar source children) :
    ∀ node ∈ children, node.kind.isComposite = false := by
  have symbols : ∀ {marks : List Symbol}, ∀ node ∈ marks.map Node.symbol,
      node.kind.isComposite = false := by
    intro marks node member
    obtain ⟨mark, _, rfl⟩ := List.mem_map.1 member
    rfl
  intro node member
  cases parts with
  | word isWord =>
    rw [List.mem_singleton.1 member]
    rfl
  | decorated isWord opens closes trails =>
    rcases List.mem_append.1 member with before | after
    · exact symbols node before
    · rcases List.mem_cons.1 after with rfl | after
      · rfl
      · exact symbols node after
  | expression isPlain evaluated =>
    rw [List.mem_singleton.1 member]
    rfl
  | run nonempty belong => exact symbols node member

/-- A leaf is no composite node, and has none below it. -/
theorem Node.count_eq_zero_of_isLeaf (leaf : node.kind.isComposite = false)
    (composite : kind.isComposite = true) : node.count kind = 0 := by
  have other : kind ≠ node.kind := by
    rintro rfl
    rw [leaf] at composite
    cases composite
  cases node with
  | document _ | paragraph _ | sentence _ | lexeme _ _ => simp [Node.kind, Kind.isComposite] at leaf
  | word _ | symbol _ | expression _ _ => exact if_neg other

/-- Lexemes have no composite nodes below them. -/
theorem IsLexeme.count_eq_zero (lexeme : IsLexeme grammar node)
    (composite : kind.isComposite = true) (other : kind ≠ .lexeme) : node.count kind = 0 := by
  cases lexeme with
  | intro nonempty solid parts =>
    have leaves := Node.countAll_eq_mul fun node member =>
      Node.count_eq_zero_of_isLeaf (parts.isLeaf node member) composite
    rw [Node.count, if_neg other, leaves, Nat.mul_zero]

/-- A sentence counts as one sentence and as no paragraph. -/
theorem IsSentence.count (sentence : IsSentence grammar node) :
    node.count .sentence = 1 ∧ node.count .paragraph = 0 := by
  cases sentence with
  | @intro lexemes symbol each belongs ends =>
    have noSentence : ∀ node ∈ lexemes, node.count .sentence = 0 :=
      fun node member => (each node member).count_eq_zero rfl (by decide)
    have noParagraph : ∀ node ∈ lexemes, node.count .paragraph = 0 :=
      fun node member => (each node member).count_eq_zero rfl (by decide)
    constructor
    · simp [Node.count, Node.countAll_append, Node.countAll_eq_mul noSentence, Node.countAll]
    · simp [Node.count, Node.countAll_append, Node.countAll_eq_mul noParagraph, Node.countAll]

/-- A paragraph counts as one paragraph, and its sentences are its children. -/
theorem IsParagraph.count (paragraph : IsParagraph grammar node) :
    node.count .paragraph = 1 ∧ node.count .sentence = node.children.length := by
  cases paragraph with
  | intro nonempty each =>
    have sentences := Node.countAll_eq_mul fun node member => (each node member).count.1
    have noParagraph := Node.countAll_eq_mul fun node member => (each node member).count.2
    constructor
    · simp [Node.count, noParagraph]
    · simp [Node.count, sentences, Node.children]

/-- A paragraph has as many sentences as are counted in it. -/
theorem IsParagraph.exists_paragraph (paragraph : IsParagraph grammar node) :
    ∃ seen, Document.paragraph? node = some seen ∧
      node.count .sentence = seen.sentences.length := by
  rw [paragraph.count.2]
  cases paragraph with
  | @intro sentences nonempty each =>
    refine ⟨⟨sentences⟩, rfl, ?_⟩
    symm
    apply List.filterMap_length_eq_length.2
    intro node member
    cases each node member
    rfl

namespace Document

/-- The words that are counted are the words of the document. -/
theorem wordCount_eq (document : Document) : document.wordCount = document.words.length :=
  (Node.length_wordsAll document.children).symm

namespace WellFormed

variable {document : Document}

/-- The paragraphs that are counted are the paragraphs of the document. -/
theorem paragraphCount_eq (wellFormed : document.WellFormed grammar) :
    document.paragraphCount = document.paragraphs.length := by
  have kept : document.paragraphs.length = document.children.length := by
    apply List.filterMap_length_eq_length.2
    intro node member
    obtain ⟨seen, isSeen, _⟩ := (wellFormed node member).exists_paragraph
    rw [isSeen]
    rfl
  have counted := Node.countAll_eq_mul fun node member => (wellFormed node member).count.1
  rw [kept, paragraphCount, counted, Nat.mul_one]

/-- The sentences that are counted are the sentences of the paragraphs. -/
theorem sentenceCount_eq (wellFormed : document.WellFormed grammar) :
    document.sentenceCount = document.sentences.length := by
  obtain ⟨children⟩ := document
  unfold WellFormed at wellFormed
  unfold sentenceCount sentences paragraphs
  induction children with
  | nil => rfl
  | cons node children inductionHypothesis =>
    obtain ⟨first, others⟩ := List.forall_mem_cons.1 wellFormed
    obtain ⟨seen, isSeen, counted⟩ := first.exists_paragraph
    simp only [Node.countAll, List.filterMap_cons, isSeen, List.flatMap_cons, List.length_append]
    rw [counted, inductionHypothesis others]

end WellFormed

end Document

end ProseTree.Tree
