import ProseTree.Proofs.Language.BuiltIn
import ProseTree.Proofs.Language.Line
import ProseTree.Proofs.Language.Normalization
import ProseTree.Proofs.Reading.Shape
import ProseTree.Proofs.Tree.Rendering

/-!
# Reading a rendered document again

A node rereads when its rendered text is divided and read into the same node. The sentences of a
rereading paragraph are phrases and the paragraph is a line, so that a rendered document is divided at
the places where it was put together. A reading without gaps and without expressions leaves rereading
nodes only.
-/

namespace ProseTree.Reading

open ProseTree.Language (BuiltIn CharClass Grammar IsLine)
open ProseTree.Text (IsSolid)
open ProseTree.Tree (Document Node Symbol)

variable {grammar : Grammar} {letters wordLetters : CharClass}

/-- A lexeme that is rendered as its token and read from it. -/
inductive LexemeRereads (grammar : Grammar) : Node → Prop
  | intro {token : Text} {children : List Node} (spelled : children.flatMap Node.text = token)
      (solid : token.IsSolid)
      (read : (tokenChain grammar).read token = .ok ⟨some (.lexeme token children), []⟩) :
      LexemeRereads grammar (.lexeme token children)

/-- A sentence of such lexemes, of which the same mark is split off when it is rendered. -/
inductive SentenceRereads (grammar : Grammar) : Node → Prop
  | intro {lexemes : List Node} {symbol : Symbol} (nonempty : lexemes ≠ [])
      (each : ∀ lexeme ∈ lexemes, LexemeRereads grammar lexeme)
      (marked : Symbol.ofText grammar symbol.text = .ok symbol)
      (starts : grammar.startsSentence (Text.join " " (lexemes.map Node.text)) = true)
      (split : grammar.splitTerminator? (Text.join " " (lexemes.map Node.text) ++ symbol.text) =
        some (Text.join " " (lexemes.map Node.text), symbol.text))
      (phrase : grammar.IsPhrase (Text.join " " (lexemes.map Node.text) ++ symbol.text)) :
      SentenceRereads grammar (.sentence (lexemes ++ [.symbol symbol]))

/-- A paragraph of such sentences. -/
inductive ParagraphRereads (grammar : Grammar) : Node → Prop
  | intro {sentences : List Node} (nonempty : sentences ≠ [])
      (each : ∀ sentence ∈ sentences, SentenceRereads grammar sentence) :
      ParagraphRereads grammar (.paragraph sentences)

section Again

variable {node : Node}

/-- A rereading lexeme is placed again. -/
theorem LexemeRereads.placed (lexeme : LexemeRereads grammar node) :
    ∃ outcome, (tokenChain grammar).read node.text = .ok outcome ∧
      placeLexeme node.text outcome = ([node], []) := by
  cases lexeme with
  | intro spelled solid read =>
    rw [Node.text_lexeme, spelled]
    exact ⟨_, read, rfl⟩

/-- A rereading lexeme is rendered as a token. -/
theorem LexemeRereads.isSolid (lexeme : LexemeRereads grammar node) : node.text.IsSolid := by
  cases lexeme with
  | intro spelled solid read =>
    rw [Node.text_lexeme, spelled]
    exact solid

/-- A rereading sentence is rendered as its lexemes and its mark. -/
theorem text_of_lexemeRereads {lexemes : List Node} (nonempty : lexemes ≠ [])
    (each : ∀ lexeme ∈ lexemes, LexemeRereads grammar lexeme) (symbol : Symbol) :
    Node.text (.sentence (lexemes ++ [.symbol symbol])) =
      Text.join " " (lexemes.map Node.text) ++ symbol.text := by
  apply Node.text_sentence nonempty
  intro lexeme member
  cases each lexeme member
  simp [Node.kind]

/-- A rereading sentence is rendered as a phrase. -/
theorem SentenceRereads.isPhrase (sentence : SentenceRereads grammar node) :
    grammar.IsPhrase node.text := by
  cases sentence with
  | intro nonempty each marked starts split phrase =>
    rw [text_of_lexemeRereads nonempty each]
    exact phrase

/-- A rereading sentence is read from its own text. -/
theorem SentenceRereads.read (sentence : SentenceRereads grammar node) :
    (sentenceChain grammar).read node.text = .ok ⟨some node, []⟩ := by
  have phrase := sentence.isPhrase
  cases sentence with
  | @intro lexemes symbol nonempty each marked starts split _ =>
    have placed := Placed.of_forall fun lexeme member => (each lexeme member).placed
    have tokens : Text.tokens (Text.join " " (lexemes.map Node.text)) = lexemes.map Node.text := by
      apply Text.tokens_join
      intro token member
      obtain ⟨lexeme, inside, rfl⟩ := List.mem_map.1 member
      exact (each lexeme inside).isSolid
    rw [← tokens] at placed
    apply read_sentence_of_parts
    rw [phrase.isSpaced.trim_eq, text_of_lexemeRereads nonempty each]
    exact .intro (Language.Grammar.startsSentence_append starts _) split placed marked

/-- Sentences that are rendered as spaced words are spaced words when they are joined by spaces. -/
theorem isSpaced_join_text {sentences : List Node} (nonempty : sentences ≠ [])
    (spaced : ∀ sentence ∈ sentences, sentence.text.IsSpaced) :
    Text.IsSpaced (Text.join " " (sentences.map Node.text)) := by
  obtain ⟨first, others, rfl⟩ := List.exists_cons_of_ne_nil nonempty
  apply Text.IsSpaced.join
  intro text member
  rw [← List.map_cons] at member
  obtain ⟨sentence, inside, rfl⟩ := List.mem_map.1 member
  exact spaced sentence inside

/-- A paragraph is rendered as an indent and its sentences. -/
theorem text_paragraph (sentences : List Node) :
    Node.text (.paragraph sentences) = Node.indent ++ Text.join " " (sentences.map Node.text) := by
  rw [Node.text, Node.texts_eq_map]

/-- A paragraph of sentences that are rendered as spaced words is rendered as a line. -/
theorem isLine_text_paragraph {sentences : List Node} (nonempty : sentences ≠ [])
    (spaced : ∀ sentence ∈ sentences, sentence.text.IsSpaced) :
    IsLine (Node.text (.paragraph sentences)) := by
  rw [text_paragraph]
  exact Language.isLine_append (by simp [Node.indent]) (isSpaced_join_text nonempty spaced)

/-- The body of a rendered paragraph is its sentences. -/
theorem paragraphBody?_text_paragraph
    (indented : ∀ body, grammar.unindented? (Node.indent ++ body) = some (Text.trim body))
    {sentences : List Node} (nonempty : sentences ≠ [])
    (spaced : ∀ sentence ∈ sentences, sentence.text.IsSpaced) :
    paragraphBody? grammar (Node.text (.paragraph sentences)) =
      some (Text.join " " (sentences.map Node.text)) := by
  rw [paragraphBody?, text_paragraph, indented, (isSpaced_join_text nonempty spaced).trim_eq]

/-- A rereading paragraph is rendered as a line. -/
theorem ParagraphRereads.isLine (paragraph : ParagraphRereads grammar node) : IsLine node.text := by
  cases paragraph with
  | intro nonempty each =>
    exact isLine_text_paragraph nonempty fun sentence member => (each sentence member).isPhrase.isSpaced

/-- Rereading sentences are read from every candidate that they are the body of. -/
theorem read_of_sentenceRereads (apart : grammar.SetsMarksApart) {sentences : List Node}
    (nonempty : sentences ≠ []) (each : ∀ sentence ∈ sentences, SentenceRereads grammar sentence)
    {candidate : Text} (found : paragraphBody? grammar candidate =
      some (Text.join " " (sentences.map Node.text))) :
    (paragraphChain grammar).read candidate = .ok ⟨some (.paragraph sentences), []⟩ := by
  have phrases : ∀ text ∈ sentences.map Node.text, grammar.IsPhrase text := by
    intro text member
    obtain ⟨sentence, inside, rfl⟩ := List.mem_map.1 member
    exact (each sentence inside).isPhrase
  have placed : Placed (sentenceChain grammar).read placeSentence (sentences.map Node.text)
      sentences [] := by
    apply Placed.of_forall
    intro sentence member
    refine ⟨_, (each sentence member).read, ?_⟩
    cases each sentence member
    rfl
  rw [← Language.Grammar.sentenceCandidates_join_phrases apart phrases] at placed
  rw [read_paragraph_of_placed found placed, if_neg]
  simpa using nonempty

/-- A rereading paragraph is read from its own text. -/
theorem ParagraphRereads.read
    (indented : ∀ body, grammar.unindented? (Node.indent ++ body) = some (Text.trim body))
    (apart : grammar.SetsMarksApart) (paragraph : ParagraphRereads grammar node) :
    (paragraphChain grammar).read node.text = .ok ⟨some node, []⟩ := by
  cases paragraph with
  | intro nonempty each =>
    exact read_of_sentenceRereads apart nonempty each (paragraphBody?_text_paragraph indented nonempty
      fun sentence member => (each sentence member).isPhrase.isSpaced)

/-- A document is rendered as its paragraphs with empty lines between them. -/
theorem text_document (document : Document) :
    document.text = Text.join "\n\n" (document.children.map Node.text) := by
  rw [Document.text, Document.toNode, Node.text, Node.texts_eq_map]
  rfl

/-- A document of rereading paragraphs is read from its own text. -/
theorem readDocument_of_rereads
    (indented : ∀ body, grammar.unindented? (Node.indent ++ body) = some (Text.trim body))
    (apart : grammar.SetsMarksApart) (schedule : Schedule) {document : Document}
    (each : ∀ paragraph ∈ document.children, ParagraphRereads grammar paragraph) :
    (standardChain grammar schedule).readDocument document.text = .ok ⟨document, []⟩ := by
  have lines : ∀ line ∈ document.children.map Node.text, IsLine line := by
    intro line member
    obtain ⟨paragraph, inside, rfl⟩ := List.mem_map.1 member
    exact (each paragraph inside).isLine
  have placed : Placed (paragraphChain grammar).read placeParagraph
      (document.children.map Node.text) document.children [] := by
    apply Placed.of_forall
    intro paragraph member
    refine ⟨_, (each paragraph member).read indented apart, ?_⟩
    cases each paragraph member
    rfl
  rw [← Language.paragraphCandidates_join lines] at placed
  rw [text_document]
  exact readDocument_of_placed schedule placed

end Again

section Once

/-- A run that drops nothing is its symbols. -/
theorem flatMap_text_of_droppedChars_eq_nil {pieces : List RunPiece}
    (nothing : droppedChars pieces = []) :
    (keptSymbols pieces).flatMap Symbol.text = pieces.flatMap RunPiece.text := by
  induction pieces with
  | nil => rfl
  | cons piece pieces inductionHypothesis =>
    cases piece with
    | kept symbol =>
      have others := inductionHypothesis nothing
      rw [List.flatMap_cons, ← others]
      rfl
    | dropped c => cases nothing

/-- Without a gap and an expression, the parts of a token are rendered as the token. -/
theorem TokenParts.flatMap_text {token : Text} {children : List Node} {gaps : List Gap}
    (parts : TokenParts grammar token children gaps) (clean : gaps = [])
    (noExpression : Node.countAll .expression children = 0) :
    children.flatMap Node.text = token := by
  cases parts with
  | word isWord => simp [Node.text]
  | @decorated opening closing trailing word isWord opens closes trails whole =>
    simp [List.flatMap_map, Node.text, whole]
  | expression isPlain evaluated => simp [Node.countAll, Node.count] at noExpression
  | run nonempty =>
    have nothing := List.map_eq_nil_iff.1 clean
    rw [List.flatMap_map]
    change (keptSymbols (runPieces grammar token)).flatMap Symbol.text = token
    rw [flatMap_text_of_droppedChars_eq_nil nothing, flatMap_text_runPieces]

/-- Where a paragraph holds no expression, its sentences hold none. -/
theorem countAll_expression_of_mem {sentences children : List Node}
    (noExpression : Node.count .expression (.paragraph sentences) = 0)
    (inside : .sentence children ∈ sentences) : Node.countAll .expression children = 0 := by
  have noneBelow : Node.countAll .expression sentences = 0 := by
    simpa [Node.count] using noExpression
  simpa [Node.count] using Node.countAll_eq_zero_iff.1 noneBelow _ inside

/-- The text that a lexeme stands for. -/
def sourceOf : Node → Text
  | .lexeme source _ => source
  | _ => []

/-- A token that leaves no gap becomes a lexeme that stands for it. -/
theorem placeLexeme_of_clean {token : Text} {outcome : Outcome} (isOne : isToken token = true)
    (read : TokenOutcome grammar token outcome) (clean : (placeLexeme token outcome).2 = []) :
    ∃ children, outcome = ⟨some (.lexeme token children), []⟩ ∧
      TokenParts grammar token children [] := by
  obtain lost | ⟨children, gaps, rfl, parts⟩ := placeLexeme_cases isOne read
  · rw [lost] at clean
    cases clean
  · change gaps = [] at clean
    subst clean
    exact ⟨children, rfl, parts⟩

variable (classes : grammar.alphabet = .classes letters wordLetters)

include classes

/-- Tokens that leave no gap become lexemes that stand for them, and reread where they hold no
expression. -/
theorem Placed.lexemeRereads {body : Text} {lexemes : List Node} {gaps : List Gap}
    (placed : Placed (tokenChain grammar).read placeLexeme (Text.tokens body) lexemes gaps)
    (clean : gaps = []) :
    lexemes.map sourceOf = Text.tokens body ∧
      ∀ lexeme ∈ lexemes, lexeme.count .expression = 0 → LexemeRereads grammar lexeme := by
  have known : ∀ token ∈ Text.tokens body, ∀ outcome, (tokenChain grammar).read token = .ok outcome →
      (placeLexeme token outcome).2 = [] →
      ∃ children, outcome = ⟨some (.lexeme token children), []⟩ ∧
        TokenParts grammar token children [] := by
    intro token member outcome known leavesNone
    have read := tokenOutcome_of_read classes known
    exact placeLexeme_of_clean (isToken_of_mem_tokens member) read leavesNone
  constructor
  · refine placed.map_of_clean (fun token member outcome read leavesNone => ?_) clean
    obtain ⟨children, rfl, _⟩ := known token member outcome read leavesNone
    rfl
  · refine placed.forall_of_clean (fun token member outcome read leavesNone => ?_) clean
    obtain ⟨children, rfl, parts⟩ := known token member outcome read leavesNone
    intro node inside noExpression
    obtain rfl := List.mem_singleton.1 inside
    have noneBelow : Node.countAll .expression children = 0 := by
      simpa [Node.count] using noExpression
    exact .intro (parts.flatMap_text rfl noneBelow) (Text.isSolid_of_mem_tokens member) read

variable (apart : grammar.SetsMarksApart)

include apart

/-- The parts of an unbroken sentence make a rereading sentence, without gaps and expressions. -/
theorem SentenceParts.sentenceRereads {sentence : Text} {children : List Node} {gaps : List Gap}
    (parts : SentenceParts grammar sentence children gaps) (clean : gaps = [])
    (unbroken : grammar.IsUnbroken sentence)
    (noExpression : Node.countAll .expression children = 0) :
    SentenceRereads grammar (.sentence children) := by
  obtain ⟨source, parts', others, first, startsFirst⟩ := parts.startsWithLexeme classes apart
  cases parts with
  | @intro body mark symbol lexemes gaps starts split placed marked =>
    have nonempty : lexemes ≠ [] := by
      rintro rfl
      cases first
    obtain ⟨sources, rereads⟩ := Placed.lexemeRereads classes placed clean
    have each : ∀ lexeme ∈ lexemes, LexemeRereads grammar lexeme := by
      intro lexeme member
      have inside := List.mem_append_left [.symbol symbol] member
      exact rereads lexeme member (Node.countAll_eq_zero_iff.1 noExpression lexeme inside)
    have texts : lexemes.map Node.text = Text.tokens body := by
      rw [← sources]
      apply List.map_congr_left
      intro lexeme member
      cases each lexeme member with
      | intro spelled _ _ =>
        rw [Node.text_lexeme, spelled]
        rfl
    have someToken : Text.tokens body ≠ [] := by
      rw [← texts]
      simpa using nonempty
    have spelled := Symbol.text_of_ofText marked
    subst spelled
    refine .intro nonempty each marked ?_ ?_ ?_
    · obtain ⟨head, rest, rfl⟩ := List.exists_cons_of_ne_nil nonempty
      obtain ⟨rfl, -⟩ := List.cons.inj first
      have isSource : Node.text (.lexeme source parts') = source := by
        cases each _ List.mem_cons_self with
        | intro spelled _ _ => rw [Node.text_lexeme, spelled]
      obtain ⟨more, joined⟩ := Text.exists_join_eq_append " " source (rest.map Node.text)
      rw [List.map_cons, isSource, joined]
      exact Language.Grammar.startsSentence_append startsFirst more
    · rw [texts]
      exact Language.Grammar.splitTerminator?_normalized unbroken split apart someToken
    · rw [texts]
      exact Language.Grammar.isPhrase_normalized unbroken split apart someToken

/-- A paragraph candidate becomes a paragraph of sentences that have the parts of unbroken texts, and leave no
gap where the paragraph leaves none. -/
theorem exists_unbroken_of_placeParagraph {candidate : Text} {outcome : Outcome}
    (read : ParagraphOutcome grammar candidate outcome) {node : Node}
    (member : node ∈ (placeParagraph candidate outcome).1) :
    ∃ sentences, node = .paragraph sentences ∧ sentences ≠ [] ∧ ∀ sentence ∈ sentences,
      ∃ text children gaps, sentence = .sentence children ∧ grammar.IsUnbroken text ∧
        SentenceParts grammar text children gaps ∧
        ((placeParagraph candidate outcome).2 = [] → gaps = []) := by
  obtain ⟨sentences, gaps, rfl, rfl⟩ := exists_of_mem_placeParagraph member
  obtain ⟨nonempty, body, -, placed⟩ := read.exists_body
  refine ⟨sentences, rfl, nonempty, placed.forall_nodes fun candidate isCandidate outcome known => ?_⟩
  intro sentence inside
  obtain ⟨children, gaps, rfl, rfl⟩ := exists_of_mem_placeSentence inside
  exact ⟨_, children, gaps, rfl, Language.Grammar.isUnbroken_of_mem_sentenceCandidates apart isCandidate,
    (sentenceOutcome_of_read classes known).parts, fun clean => placed.leaves_none clean isCandidate known⟩

/-- A paragraph candidate that leaves no gap becomes a rereading paragraph. -/
theorem paragraphRereads_of_placeParagraph {candidate : Text} {outcome : Outcome}
    (read : ParagraphOutcome grammar candidate outcome)
    (clean : (placeParagraph candidate outcome).2 = []) :
    ∀ node ∈ (placeParagraph candidate outcome).1, node.count .expression = 0 →
      ParagraphRereads grammar node := by
  intro node member noExpression
  obtain ⟨sentences, rfl, nonempty, each⟩ := exists_unbroken_of_placeParagraph classes apart read member
  refine .intro nonempty fun sentence inside => ?_
  obtain ⟨text, children, gaps, rfl, unbroken, parts, leavesNone⟩ := each sentence inside
  exact parts.sentenceRereads classes apart (leavesNone clean) unbroken
    (countAll_expression_of_mem noExpression inside)

end Once

/-- Under a built-in grammar, a document that was read without gaps and holds no expression is read
again from its rendered text, without gaps and under any schedule. -/
theorem readDocument_text {language : BuiltIn} {grammar : Grammar}
    (accepted : Grammar.ofConfiguration language.configuration = .ok grammar)
    {schedule : Schedule} {text : Text} {reading : Reading}
    (read : (standardChain grammar schedule).readDocument text = .ok reading)
    (clean : reading.gaps = [])
    (noExpression : Node.countAll .expression reading.document.children = 0) (again : Schedule) :
    (standardChain grammar again).readDocument reading.document.text =
      .ok ⟨reading.document, []⟩ := by
  obtain ⟨letters, wordLetters, classes⟩ := Grammar.exists_classes accepted language.hasPlainLetters
  have apart := BuiltIn.setsMarksApart accepted
  obtain ⟨paragraphs, gaps, same, placed⟩ := exists_readDocument classes schedule text
  rw [read] at same
  cases same
  apply readDocument_of_rereads (BuiltIn.unindented?_append accepted) apart
  intro paragraph member
  have rereads : ∀ paragraph ∈ paragraphs, paragraph.count .expression = 0 →
      ParagraphRereads grammar paragraph := by
    refine placed.forall_of_clean (fun candidate _ outcome known leavesNone => ?_) clean
    have read := paragraphOutcome_of_read classes known
    exact paragraphRereads_of_placeParagraph classes apart read leavesNone
  exact rereads paragraph member (Node.countAll_eq_zero_iff.1 noExpression paragraph member)

/-- Two English paragraphs with marks, enclosures and an ellipsis. -/
def englishExcerpt : Text :=
  "\tSay (yes), all  of you... Is it \"so\"?!  The end.\n \n    It's well-known,\n isn't it?"

/-- The two paragraphs as they are rendered. -/
def renderedExcerpt : Text :=
  "    Say (yes), all of you... Is it \"so\"?! The end.\n\n    It's well-known, isn't it?"

/-- They are rendered behind four spaces, with single spaces between their tokens, and read again. -/
theorem readDocument_text_english :
    ∃ grammar reading, Grammar.ofConfiguration .english = .ok grammar ∧
      (standardChain grammar .sequential).readDocument englishExcerpt = .ok reading ∧
      reading.gaps = [] ∧ Node.countAll .expression reading.document.children = 0 ∧
      reading.document.text = renderedExcerpt ∧
      (standardChain grammar {}).readDocument renderedExcerpt = .ok ⟨reading.document, []⟩ := by
  obtain ⟨grammar, accepted⟩ := BuiltIn.english.exists_ofConfiguration
  obtain ⟨letters, wordLetters, classes⟩ :=
    Grammar.exists_classes accepted BuiltIn.english.hasPlainLetters
  obtain ⟨paragraphs, gaps, read, -⟩ := exists_readDocument classes .sequential englishExcerpt
  have computed : ((standardChain grammar .sequential).readDocument englishExcerpt).toOption.map
      (fun reading => (reading.gaps.length, Node.countAll .expression reading.document.children,
        reading.document.text)) = some (0, 0, renderedExcerpt) :=
    Grammar.eq_of_computed accepted (fun grammar =>
      ((standardChain grammar .sequential).readDocument englishExcerpt).toOption.map
        fun reading => (reading.gaps.length, Node.countAll .expression reading.document.children,
          reading.document.text)) (by decide +kernel)
  rw [read] at computed
  obtain ⟨noGaps, both⟩ := Prod.mk.inj (Option.some.inj computed)
  obtain ⟨noExpression, rendered⟩ := Prod.mk.inj both
  have clean := List.length_eq_zero_iff.1 noGaps
  have again := readDocument_text accepted read clean noExpression {}
  rw [rendered] at again
  exact ⟨grammar, _, accepted, read, clean, noExpression, rendered, again⟩

end ProseTree.Reading
