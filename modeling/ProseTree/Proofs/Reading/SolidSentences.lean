import ProseTree.Proofs.Decimal.Characters
import ProseTree.Proofs.Reading.SentenceCounts
import ProseTree.Proofs.Reading.Shape
import ProseTree.Proofs.Reading.TokenWords
import ProseTree.Proofs.Text.Lines
import ProseTree.Proofs.Tree.Levels

/-!
# Sentences that were read have no white space but spaces

Tokens have no white space, and neither has what is kept of them, nor the number that an expression is
rendered as. A terminator is the last character of a trimmed text. So the only white space in a rendered
sentence are the spaces between its lexemes, as long as the ellipsis has none, and every paragraph stands on
one line of the document.
-/

namespace ProseTree.Reading

open ProseTree.Language (CharClass Grammar)
open ProseTree.Tree (Document Kind Node Paragraph Sentence Symbol)

variable {grammar : Grammar} {letters wordLetters : CharClass}

section Parts

/-- A leaf whose text has no white space. -/
structure IsSolidLeaf (node : Node) : Prop where
  isLeaf : node.kind.isComposite = false
  noBlank : ∀ c ∈ node.text, Text.isBlank c = false

/-- What a lexeme holds of a token has no white space. -/
theorem TokenParts.isSolidLeaf {token : Text} {children : List Node} {gaps : List Gap}
    (solid : token.IsSolid) (parts : TokenParts grammar token children gaps) :
    ∀ node ∈ children, IsSolidLeaf node := by
  intro node member
  refine ⟨parts.lexemeChildren.isLeaf node member, ?_⟩
  cases parts with
  | word isWord =>
    rw [List.mem_singleton.1 member]
    exact solid.noBlank
  | @decorated opening closing trailing word isWord opens closes trails whole =>
    have inToken : ∀ c, c ∈ opening.toList ∨ c ∈ word ∨ c ∈ closing.toList ++ trailing.toList →
        Text.isBlank c = false := by
      intro c member
      refine solid.noBlank c ?_
      simpa [whole, or_assoc] using member
    have symbolSolid : ∀ c, Text.isBlank c = false →
        ∀ d ∈ (Node.symbol (Symbol.ofChar grammar c)).text, Text.isBlank d = false := by
      intro c noBlank d inside
      rw [Node.text, Symbol.text_ofChar] at inside
      rwa [List.mem_singleton.1 inside]
    obtain before | behind := List.mem_append.1 member
    · obtain ⟨c, isMark, rfl⟩ := List.mem_map.1 before
      exact symbolSolid c (inToken c (.inl isMark))
    · obtain rfl | after := List.mem_cons.1 behind
      · exact fun c inWord => inToken c (.inr (.inl inWord))
      · obtain ⟨c, isMark, rfl⟩ := List.mem_map.1 after
        exact symbolSolid c (inToken c (.inr (.inr isMark)))
  | expression isPlain evaluated =>
    rw [List.mem_singleton.1 member]
    exact Decimal.noBlank_ofDouble _
  | run nonempty =>
    obtain ⟨symbol, isKept, rfl⟩ := List.mem_map.1 member
    exact fun c inSymbol =>
      solid.noBlank c (mem_of_mem_keptText (List.mem_flatMap.2 ⟨symbol, isKept, inSymbol⟩))

/-- A lexeme of leaves without white space. -/
def IsSolidLexeme (node : Node) : Prop :=
  ∃ source children, node = .lexeme source children ∧ ∀ child ∈ children, IsSolidLeaf child

/-- A token becomes a lexeme of leaves without white space, or nothing. -/
theorem isSolidLexeme_of_placeLexeme {token : Text} {outcome : Outcome} (solid : token.IsSolid)
    (isOne : isToken token = true) (read : TokenOutcome grammar token outcome) :
    ∀ node ∈ (placeLexeme token outcome).1, IsSolidLexeme node := by
  intro node member
  obtain ⟨children, gaps, rfl, parts⟩ := exists_parts_of_mem_placeLexeme isOne read member
  exact ⟨token, children, rfl, parts.isSolidLeaf solid⟩

/-- Lexemes and a mark behind them, none of them with white space in it. -/
inductive IsSolidSentence : List Node → Prop
  | intro {lexemes : List Node} {mark : Symbol} (each : ∀ lexeme ∈ lexemes, IsSolidLexeme lexeme)
      (noBlank : ∀ c ∈ mark.text, Text.isBlank c = false) : IsSolidSentence (lexemes ++ [.symbol mark])

/-- The mark of a sentence that ends with no white space has none, if the ellipsis has none. -/
theorem noBlank_of_isMark (ellipsis : ∀ c ∈ grammar.ellipsis, Text.isBlank c = false)
    {before mark : Text} (isMark : grammar.IsMark mark)
    (ended : ∀ c ∈ (before ++ mark).getLast?, Text.isBlank c = false) :
    ∀ c ∈ mark, Text.isBlank c = false := by
  obtain rfl | ⟨c, rfl, -⟩ := isMark
  · exact ellipsis
  · exact List.forall_mem_singleton.2 (ended c (by simp))

/-- The parts of a trimmed sentence have no white space. -/
theorem SentenceParts.isSolidSentence (classes : grammar.alphabet = .classes letters wordLetters)
    (ellipsis : ∀ c ∈ grammar.ellipsis, Text.isBlank c = false) {sentence : Text}
    {children : List Node} {gaps : List Gap}
    (ended : ∀ c ∈ sentence.getLast?, Text.isBlank c = false)
    (parts : SentenceParts grammar sentence children gaps) : IsSolidSentence children := by
  cases parts with
  | intro starts split placed marked =>
    obtain ⟨before, rfl, _, isMark, _⟩ := Language.Grammar.splitTerminator?_eq_some split
    refine .intro ?_ ?_
    · refine placed.forall_nodes fun token member outcome known => ?_
      exact isSolidLexeme_of_placeLexeme (Text.isSolid_of_mem_tokens member) (isToken_of_mem_tokens member)
        (tokenOutcome_of_read classes known)
    · rw [Symbol.text_of_ofText marked]
      exact noBlank_of_isMark ellipsis isMark ended

/-- No sentence of a document that was read has white space in its parts. -/
theorem isSolidSentence_of_readDocument (classes : grammar.alphabet = .classes letters wordLetters)
    (ellipsis : ∀ c ∈ grammar.ellipsis, Text.isBlank c = false)
    {schedule : Schedule} {text : Text} {reading : Reading}
    (read : (standardChain grammar schedule).readDocument text = .ok reading) :
    ∀ sentence ∈ reading.document.sentences, IsSolidSentence sentence.children := by
  refine forall_sentences_of_readDocument (fun candidate outcome children known found => ?_) read
  obtain ⟨node, gaps⟩ := outcome
  cases found
  exact (sentenceOutcome_of_read classes known).parts.isSolidSentence classes ellipsis
    Text.isBlank_of_mem_getLast?_trimEnd

end Parts

section Texts

/-- Every character of spaced parts is one of a part, or a space. -/
theorem hasOnlySpaces_spaced {parts : List (Kind × Text)}
    (each : ∀ part ∈ parts, part.2.HasOnlySpaces) : (Node.spaced parts).HasOnlySpaces := by
  cases parts with
  | nil => simp [Node.spaced, Text.HasOnlySpaces]
  | cons first others =>
    obtain ⟨here, behind⟩ := List.forall_mem_cons.1 each
    refine here.append fun c member blank => ?_
    obtain ⟨⟨kind, text⟩, isPart, inside⟩ := List.mem_flatMap.1 member
    dsimp only at inside
    split at inside
    · exact behind _ isPart c inside blank
    · obtain rfl | inText := List.mem_cons.1 inside
      · rfl
      · exact behind _ isPart c inText blank

/-- The only white space in such a sentence are spaces. -/
theorem IsSolidSentence.hasOnlySpaces_text {children : List Node} (solid : IsSolidSentence children) :
    (Node.text (.sentence children)).HasOnlySpaces := by
  cases solid with
  | intro each noBlank =>
    rw [Node.text, Node.texts_eq_map, List.zip_map']
    refine hasOnlySpaces_spaced (List.forall_mem_map.2 ?_)
    refine List.forall_mem_append.2 ⟨fun lexeme member => ?_, List.forall_mem_singleton.2 ?_⟩
    · obtain ⟨source, parts, rfl, areSolid⟩ := each lexeme member
      refine .of_noBlank fun c inText => ?_
      rw [Node.text_lexeme] at inText
      obtain ⟨part, isPart, inPart⟩ := List.mem_flatMap.1 inText
      exact (areSolid part isPart).noBlank c inPart
    · exact .of_noBlank noBlank

/-- The words of such a sentence have no white space. -/
theorem IsSolidSentence.noBlank_words {children : List Node} (solid : IsSolidSentence children) :
    ∀ word ∈ Node.wordsAll children, ∀ c ∈ word, Text.isBlank c = false := by
  have ofLeaf : ∀ node, IsSolidLeaf node → ∀ word ∈ node.words, ∀ c ∈ word, Text.isBlank c = false := by
    intro node leaf
    cases node with
    | word text => exact List.forall_mem_singleton.2 leaf.noBlank
    | symbol _ | expression _ _ => simp [Node.words]
    | document _ | paragraph _ | sentence _ | lexeme _ _ => exact absurd leaf.isLeaf Bool.noConfusion
  cases solid with
  | intro each noBlank =>
    intro word member
    rw [Node.wordsAll_eq_flatMap, List.flatMap_append, List.mem_append] at member
    obtain inLexeme | inMark := member
    · obtain ⟨lexeme, isLexeme, inside⟩ := List.mem_flatMap.1 inLexeme
      obtain ⟨source, parts, rfl, areSolid⟩ := each lexeme isLexeme
      rw [Node.words, Node.wordsAll_eq_flatMap] at inside
      obtain ⟨part, isPart, inPart⟩ := List.mem_flatMap.1 inside
      exact ofLeaf part (areSolid part isPart) word inPart
    · simp [Node.words] at inMark

/-- The only white space in a paragraph of such sentences are spaces. -/
theorem hasOnlySpaces_paragraph {document : Document} (wellFormed : document.WellFormed grammar)
    (solid : ∀ sentence ∈ document.sentences, IsSolidSentence sentence.children) :
    ∀ paragraph ∈ document.paragraphs, paragraph.text.HasOnlySpaces := by
  intro paragraph member
  rw [wellFormed.text_paragraph member]
  have indent : Text.HasOnlySpaces Node.indent := by simp [Text.HasOnlySpaces, Node.indent]
  refine indent.append (.join (List.forall_mem_map.2 fun sentence inside => ?_))
  exact (solid sentence (List.mem_flatMap.2 ⟨paragraph, member, inside⟩)).hasOnlySpaces_text

/-- The paragraphs of such sentences are the lines of the document that are not empty. -/
theorem filter_lines_text {document : Document} (wellFormed : document.WellFormed grammar)
    (solid : ∀ sentence ∈ document.sentences, IsSolidSentence sentence.children) :
    (Text.lines document.text).filter (!·.isEmpty) = document.paragraphs.map Paragraph.text := by
  rw [wellFormed.text_eq]
  refine Text.filter_lines_join (List.forall_mem_map.2 fun paragraph member => ?_)
    (List.forall_mem_map.2 (hasOnlySpaces_paragraph wellFormed solid))
  rw [wellFormed.text_paragraph member]
  exact List.append_ne_nil_of_left_ne_nil (by decide) _

end Texts

end ProseTree.Reading
