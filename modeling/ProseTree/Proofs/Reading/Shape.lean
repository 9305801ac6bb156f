import ProseTree.Proofs.Language.BuiltIn
import ProseTree.Proofs.Reading.Outcomes
import ProseTree.Proofs.Text.Tokens

/-!
# The shape of a reading

Whatever the stages hand on to each other, every node of a document that was read has its place. A
candidate that came back as a node of another kind is a gap and no part of the document, so each level
is well-formed as soon as the level below it is.
-/

namespace ProseTree.Reading

open ProseTree.Language (BuiltIn CharClass ClassTables Configuration Grammar)
open ProseTree.Tree (IsLexeme IsParagraph IsSentence LexemeChildren Node Symbol)

variable {grammar : Grammar} {letters wordLetters : CharClass}

/-- The parts of a token are what a lexeme may hold. -/
theorem TokenParts.lexemeChildren {token : Text} {children : List Node} {gaps : List Gap}
    (parts : TokenParts grammar token children gaps) : LexemeChildren grammar token children := by
  cases parts with
  | word isWord => exact .word isWord
  | @decorated opening closing trailing word isWord opens closes trails whole =>
    have enclosure : ∀ {mark : Option Char}, (∀ c ∈ mark, grammar.isEnclosure c = true) →
        ∀ symbol ∈ mark.map (Symbol.ofChar grammar), symbol.BelongsTo grammar := by
      intro mark encloses symbol member
      obtain ⟨c, isMark, rfl⟩ := Option.map_eq_some_iff.1 member
      exact Symbol.belongsTo_ofChar (by simp [Grammar.isSymbolChar, encloses c isMark])
    have punctuation : ∀ symbol ∈ trailing.map (Symbol.ofChar grammar),
        symbol.BelongsTo grammar := by
      intro symbol member
      obtain ⟨c, isMark, rfl⟩ := Option.map_eq_some_iff.1 member
      have follows := trails c isMark
      exact Symbol.belongsTo_ofChar (by simp only [Grammar.isSymbolChar, Grammar.isPunctuation, follows,
        Bool.true_or, Bool.or_true])
    have decorated := @LexemeChildren.decorated grammar token _ _ _ word isWord (enclosure opens)
      (enclosure closes) punctuation
    cases opening <;> cases closing <;> cases trailing <;> exact decorated
  | expression isPlain evaluated =>
    refine .expression isPlain ?_
    rw [ProseTree.Arithmetic.Evaluator.evaluate, evaluated]
    rfl
  | run nonempty => exact .run nonempty fun symbol member => belongsTo_of_mem_keptSymbols member

/-- A token becomes a lexeme, or nothing. -/
theorem isLexeme_of_placeLexeme {token : Text} {outcome : Outcome}
    (nonempty : token ≠ []) (solid : ∀ c ∈ token, Text.isBlank c = false)
    (isOne : isToken token = true) (read : TokenOutcome grammar token outcome) :
    ∀ node ∈ (placeLexeme token outcome).1, IsLexeme grammar node := by
  intro node member
  obtain ⟨children, gaps, rfl, parts⟩ := exists_parts_of_mem_placeLexeme isOne read member
  exact .intro nonempty solid parts.lexemeChildren

/-- A mark that ends a sentence spells a symbol that does. -/
theorem endsSentence_of_ofText {mark : Text} {symbol : Symbol} (isMark : grammar.IsMark mark)
    (marked : Symbol.ofText grammar mark = .ok symbol) : symbol.EndsSentence grammar := by
  rcases isMark with rfl | ⟨c, rfl, terminator⟩
  · rw [Symbol.ofText_ellipsis] at marked
    cases marked
    exact .inl rfl
  · rw [Symbol.ofText_singleton] at marked
    cases marked
    unfold Symbol.ofChar
    split
    · rename_i isEllipsis
      exact .inl (by rw [isEllipsis])
    · exact .inr ⟨c, rfl, terminator⟩

/-- The parts of a sentence are lexemes and the symbol that ends it. -/
theorem SentenceParts.isSentence (classes : grammar.alphabet = .classes letters wordLetters)
    {sentence : Text} {children : List Node} {gaps : List Gap}
    (parts : SentenceParts grammar sentence children gaps) :
    IsSentence grammar (.sentence children) := by
  cases parts with
  | intro starts split placed marked =>
    obtain ⟨_, _, _, isMark, _⟩ := Language.Grammar.splitTerminator?_eq_some split
    have ends := endsSentence_of_ofText isMark marked
    refine .intro ?_ ends.belongsTo ends
    refine placed.forall_nodes fun token member outcome known => ?_
    have read := tokenOutcome_of_read classes known
    obtain ⟨nonempty, solid⟩ := Text.isSolid_of_mem_tokens member
    exact isLexeme_of_placeLexeme nonempty solid (isToken_of_mem_tokens member) read

/-- A sentence that starts with a lexeme, and this one like a sentence. -/
def StartsWithLexeme (grammar : Grammar) (children : List Node) : Prop :=
  ∃ source parts others, children = .lexeme source parts :: others ∧
    grammar.startsSentence source = true

/-- The first token of the body of a sentence starts like the sentence. -/
theorem exists_tokens_of_startsSentence (apart : grammar.SetsMarksApart)
    {sentence body mark : Text} (starts : grammar.startsSentence sentence = true)
    (split : grammar.splitTerminator? sentence = some (body, mark)) :
    ∃ token others, Text.tokens body = token :: others ∧ grammar.startsSentence token = true := by
  obtain ⟨before, whole, rfl, isMark, _⟩ := Language.Grammar.splitTerminator?_eq_some split
  cases sentence with
  | nil => cases starts
  | cons c rest =>
    obtain ⟨_, letter⟩ := Bool.and_eq_true_iff.1 starts
    cases before with
    | nil =>
      -- A mark that is the whole sentence would start with a letter.
      rw [List.nil_append] at whole
      have terminator := apart.isTerminator isMark c (by simp [← whole])
      rw [apart.noLetter c terminator] at letter
      cases letter
    | cons d before =>
      obtain ⟨rfl, _⟩ := List.cons.inj whole
      have solid := apart.letter c letter
      obtain ⟨kept, trimmed⟩ := Text.exists_trimEnd_cons solid before
      obtain ⟨word, others, tokens⟩ := Text.exists_tokens_cons solid kept
      rw [trimmed]
      exact ⟨c :: word, others, tokens, starts⟩

/-- A token that starts like a sentence keeps a symbol. -/
theorem keptSymbols_ne_nil {token : Text} (starts : grammar.startsSentence token = true) :
    keptSymbols (runPieces grammar token) ≠ [] := by
  cases token with
  | nil => cases starts
  | cons c rest =>
    obtain ⟨_, letter⟩ := Bool.and_eq_true_iff.1 starts
    have symbolChar : grammar.isSymbolChar c = true := by
      simp [Grammar.isSymbolChar, letter]
    intro nothing
    exact keptSymbols_eq_nil_iff.1 nothing (.inr ⟨c, List.mem_cons_self, symbolChar⟩)

/-- The first token of a sentence becomes a lexeme. -/
theorem SentenceParts.startsWithLexeme (classes : grammar.alphabet = .classes letters wordLetters)
    (apart : grammar.SetsMarksApart) {sentence : Text} {children : List Node} {gaps : List Gap}
    (parts : SentenceParts grammar sentence children gaps) : StartsWithLexeme grammar children := by
  cases parts with
  | @intro body mark symbol lexemes gaps starts split placed marked =>
    obtain ⟨token, others, tokens, startsFirst⟩ := exists_tokens_of_startsSentence apart starts split
    have member : token ∈ Text.tokens body := by
      rw [tokens]
      exact List.mem_cons_self
    have isOne := isToken_of_mem_tokens member
    rw [tokens] at placed
    cases placed with
    | @cons _ _ outcome nodes gaps known placed =>
      cases tokenOutcome_of_read classes known with
      | unrecognized nothing => exact absurd (nothing isOne) (keptSymbols_ne_nil startsFirst)
      | lexeme _ parts => exact ⟨token, _, nodes ++ [.symbol symbol], rfl, startsFirst⟩
      | fragment isNone inner => simp [isOne] at isNone

/-- A sentence with the parts that some text was divided into. -/
def ComesFromParts (grammar : Grammar) (node : Node) : Prop :=
  ∃ sentence children gaps, node = .sentence children ∧
    SentenceParts grammar sentence children gaps

/-- A sentence candidate becomes a sentence of its parts, or nothing. -/
theorem comesFromParts_of_placeSentence {candidate : Text} {outcome : Outcome}
    (read : SentenceOutcome grammar candidate outcome) :
    ∀ node ∈ (placeSentence candidate outcome).1, ComesFromParts grammar node := by
  intro node member
  obtain ⟨children, gaps, rfl, rfl⟩ := exists_of_mem_placeSentence member
  exact ⟨_, children, gaps, rfl, read.parts⟩

/-- A paragraph candidate becomes a paragraph of such sentences, or nothing. -/
theorem exists_sentences_of_placeParagraph
    (classes : grammar.alphabet = .classes letters wordLetters) {candidate : Text}
    {outcome : Outcome} (read : ParagraphOutcome grammar candidate outcome) :
    ∀ node ∈ (placeParagraph candidate outcome).1, ∃ sentences, node = .paragraph sentences ∧
      sentences ≠ [] ∧ ∀ sentence ∈ sentences, ComesFromParts grammar sentence := by
  intro node member
  obtain ⟨sentences, gaps, rfl, rfl⟩ := exists_of_mem_placeParagraph member
  obtain ⟨nonempty, body, -, placed⟩ := read.exists_body
  refine ⟨sentences, rfl, nonempty, placed.forall_nodes fun sentence _ outcome known => ?_⟩
  have read := sentenceOutcome_of_read classes known
  exact comesFromParts_of_placeSentence read

section Placed

variable (classes : grammar.alphabet = .classes letters wordLetters) {text : Text}
  {paragraphs : List Node} {gaps : List Gap}
  (placed : Placed (paragraphChain grammar).read placeParagraph
    (Language.paragraphCandidates text) paragraphs gaps)

include classes placed

/-- The placed paragraphs are paragraphs of such sentences. -/
theorem exists_sentences_of_placed :
    ∀ node ∈ paragraphs, ∃ sentences, node = .paragraph sentences ∧
      sentences ≠ [] ∧ ∀ sentence ∈ sentences, ComesFromParts grammar sentence := by
  refine placed.forall_nodes fun paragraph _ outcome known => ?_
  have read := paragraphOutcome_of_read classes known
  exact exists_sentences_of_placeParagraph classes read

/-- A document of placed paragraphs is well-formed. -/
theorem wellFormed_of_placed : Tree.Document.WellFormed grammar ⟨paragraphs⟩ := by
  intro node member
  obtain ⟨sentences, rfl, nonempty, each⟩ := exists_sentences_of_placed classes placed node member
  refine .intro nonempty fun sentence inside => ?_
  obtain ⟨_, children, _, rfl, parts⟩ := each sentence inside
  exact parts.isSentence classes

/-- Every sentence of a document of placed paragraphs starts with a lexeme. -/
theorem startsWithLexeme_of_placed (apart : grammar.SetsMarksApart) :
    ∀ sentence ∈ (Tree.Document.mk paragraphs).sentences,
      StartsWithLexeme grammar sentence.children := by
  intro sentence member
  obtain ⟨paragraph, inDocument, inParagraph⟩ := List.mem_flatMap.1 member
  obtain ⟨node, isChild, isParagraph⟩ := List.mem_filterMap.1 inDocument
  obtain ⟨child, isGrandchild, isSentence⟩ := List.mem_filterMap.1 inParagraph
  obtain ⟨sentences, rfl, nonempty, each⟩ := exists_sentences_of_placed classes placed node isChild
  cases isParagraph
  obtain ⟨_, children, _, rfl, parts⟩ := each child isGrandchild
  cases isSentence
  exact parts.startsWithLexeme classes apart

end Placed

/-- Every document that is read has its shape, its counts are the lengths of its lists, and with the
marks of a built-in language every sentence starts with a lexeme. -/
theorem wellFormed_readDocument [ClassTables] {configuration : Configuration} {grammar : Grammar}
    (accepted : Grammar.ofConfiguration configuration = .ok grammar)
    (plain : configuration.HasPlainLetters) (schedule : Schedule) (text : Text) :
    ∃ reading, (standardChain grammar schedule).readDocument text = .ok reading ∧
      reading.document.WellFormed grammar ∧
      reading.document.paragraphCount = reading.document.paragraphs.length ∧
      reading.document.sentenceCount = reading.document.sentences.length ∧
      reading.document.wordCount = reading.document.words.length ∧
      ∀ language : BuiltIn, configuration = language.configuration →
        ∀ sentence ∈ reading.document.sentences, StartsWithLexeme grammar sentence.children := by
  obtain ⟨letters, wordLetters, classes⟩ := Grammar.exists_classes accepted plain
  obtain ⟨paragraphs, gaps, read, placed⟩ := exists_readDocument classes schedule text
  have wellFormed := wellFormed_of_placed classes placed
  refine ⟨_, read, wellFormed, wellFormed.paragraphCount_eq, wellFormed.sentenceCount_eq,
    Tree.Document.wordCount_eq _, ?_⟩
  rintro language rfl
  rw [Language.BuiltIn.ofConfiguration_eq_without_tables] at accepted
  exact startsWithLexeme_of_placed classes placed (Language.BuiltIn.setsMarksApart accepted)

/-- An English paragraph with a decorated word, an expression and an ellipsis has its shape. -/
theorem wellFormed_readDocument_english :
    ∃ grammar reading, Grammar.ofConfiguration .english = .ok grammar ∧
      (standardChain grammar .sequential).readDocument "\tSay (yes), 1+2 or so..." = .ok reading ∧
      reading.document.WellFormed grammar ∧
      ∀ sentence ∈ reading.document.sentences, StartsWithLexeme grammar sentence.children := by
  obtain ⟨grammar, accepted⟩ := Language.BuiltIn.english.exists_ofConfiguration
  obtain ⟨reading, read, wellFormed, _, _, _, starts⟩ := wellFormed_readDocument accepted
    Language.BuiltIn.english.hasPlainLetters .sequential "\tSay (yes), 1+2 or so..."
  exact ⟨grammar, reading, accepted, read, wellFormed, starts .english rfl⟩

end ProseTree.Reading
