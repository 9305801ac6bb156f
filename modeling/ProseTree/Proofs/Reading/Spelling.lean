import ProseTree.Proofs.Language.Spelling
import ProseTree.Proofs.Reading.Rereading

/-!
# Reading what is spelled

Paragraphs of sentences of words are spelled with an indent before each paragraph, single spaces between
words and between sentences, each terminator behind the last word of its sentence, and blank lines
between paragraphs. The text is divided at exactly these places, and each word is told from the marks
around it, so that what is spelled is what is read.
-/

namespace ProseTree

open ProseTree.Language (BuiltIn CharClass Grammar IsLaidOut IsLine WordSpelling)
open ProseTree.Tree (Document Kind Node Symbol)

/-- Words with marks around them, the first of which starts a sentence, and the terminator behind them. A
punctuation character that could end the sentence trails no word. -/
structure SentenceSpelling (grammar : Grammar) where
  first : WordSpelling grammar
  others : List (WordSpelling grammar)
  terminator : Symbol
  unopened : first.opening = none
  starts : grammar.startsSentence first.word = true
  goesOn : ∀ word ∈ first :: others, ∀ c ∈ word.trailing, grammar.isTerminator c = false
  ends : terminator.EndsSentence grammar

/-- Sentences behind an indent. -/
structure ParagraphSpelling (grammar : Grammar) where
  indent : Text
  sentences : List (SentenceSpelling grammar)
  isIndent : indent ∈ grammar.indentMarkers
  nonempty : sentences ≠ []

variable {grammar : Grammar} {letters wordLetters : CharClass}

/-- The lexeme that a word with marks around it is. -/
def Language.WordSpelling.lexeme (word : WordSpelling grammar) : Node :=
  .lexeme word.text (word.opening.toList.map (fun c => .symbol (.char c)) ++ .word word.word ::
    word.ending.map fun c => .symbol (.char c))

namespace SentenceSpelling

/-- The words of a sentence. -/
def words (sentence : SentenceSpelling grammar) : List (WordSpelling grammar) :=
  sentence.first :: sentence.others

/-- The text of a sentence: its words with spaces between them, and its terminator. -/
def text (sentence : SentenceSpelling grammar) : Text :=
  Text.join " " (sentence.words.map WordSpelling.text) ++ sentence.terminator.text

/-- The node that a sentence is. -/
def node (sentence : SentenceSpelling grammar) : Node :=
  .sentence (sentence.words.map WordSpelling.lexeme ++ [.symbol sentence.terminator])

end SentenceSpelling

namespace ParagraphSpelling

/-- The text of a paragraph: its indent, and its sentences with spaces between them. -/
def text (paragraph : ParagraphSpelling grammar) : Text :=
  paragraph.indent ++ Text.join " " (paragraph.sentences.map SentenceSpelling.text)

/-- The node that a paragraph is. -/
def node (paragraph : ParagraphSpelling grammar) : Node :=
  .paragraph (paragraph.sentences.map SentenceSpelling.node)

/-- The words of the sentences of a paragraph. -/
def words (paragraph : ParagraphSpelling grammar) : List (WordSpelling grammar) :=
  paragraph.sentences.flatMap SentenceSpelling.words

end ParagraphSpelling

namespace Reading

/-- What a reading of spelled text relies on: the sets of characters of the grammar are kept apart, and
its ellipsis is no single character. -/
structure SpellsApart (grammar : Grammar) (letters wordLetters : CharClass) : Prop where
  classes : grammar.alphabet = .classes letters wordLetters
  tokens : grammar.SetsTokensApart wordLetters
  marks : grammar.SetsMarksApart
  enclosures : grammar.enclosures ≠ []
  ellipsis : ∀ c, grammar.ellipsis ≠ [c]

/-- Built-in grammars keep their sets of characters apart. -/
theorem spellsApart {language : BuiltIn}
    (accepted : Grammar.ofConfiguration language.configuration = .ok grammar) :
    ∃ letters wordLetters, SpellsApart grammar letters wordLetters := by
  obtain ⟨letters, wordLetters, classes, tokens⟩ := BuiltIn.setsTokensApart accepted
  exact ⟨letters, wordLetters, classes, tokens, BuiltIn.setsMarksApart accepted,
    BuiltIn.enclosures_ne_nil accepted, BuiltIn.ellipsis_ne_singleton accepted⟩

/-- A spelled word is rendered as it is spelled. -/
theorem text_lexeme (word : WordSpelling grammar) : word.lexeme.text = word.text := by
  rw [WordSpelling.lexeme, Node.text_lexeme]
  simp [WordSpelling.text, List.flatMap_map, Node.text, Symbol.text]

section Words

variable (apart : SpellsApart grammar letters wordLetters) (word : WordSpelling grammar)

include apart

/-- The parts of a spelled word are the word and a symbol for every character around it. -/
theorem lexeme_eq : word.lexeme = .lexeme word.text (spellingParts word) := by
  have single : ∀ c, Symbol.ofChar grammar c = .char c :=
    fun c => if_neg fun same => apart.ellipsis c same.symm
  simp only [spellingParts, single]
  rfl

/-- A spelled word is recognised with exactly the marks that are spelled. -/
theorem exists_wordNode? :
    ∃ node, wordNode? grammar word.text = some (.ok node) ∧ partsOf node = spellingParts word := by
  have decorationApart := apart.tokens.toSetsDecorationApart
  have lexeme := decoratedLexeme_decorated word word.text
  -- A joiner or a quote may belong to several readings, and the first one that succeeds counts; each
  -- of them spells the same text, so that each is the given one.
  unfold wordNode?
  cases isWord : grammar.isWord word.text with
  | true =>
    let bare : WordSpelling grammar :=
      ⟨none, word.text, none, none, isWord, by simp, by simp, by simp⟩
    have same : bare.text = word.text := by
      simp [bare, WordSpelling.text, WordSpelling.ending]
    refine ⟨.word word.text, congrArg some (if_pos isWord), ?_⟩
    rw [← WordSpelling.text_inj apart.classes decorationApart same, same]
    rfl
  | false =>
    simp only [Bool.false_eq_true, if_false]
    cases punctuated : grammar.wordWithPunctuation? word.text with
    | some parts =>
      obtain ⟨body, mark⟩ := parts
      have readFrom := Language.Grammar.readFrom_wordWithPunctuation? apart.classes punctuated
      obtain ⟨other, same, decorated⟩ := WordSpelling.exists_of_readFrom readFrom
      rw [WordSpelling.text_inj apart.classes decorationApart same] at decorated
      exact ⟨_, congrArg some (decorated ▸ lexeme), rfl⟩
    | none =>
      have decorated := word.decoratedWord?_text apart.classes decorationApart apart.enclosures
      simp only [decorated, Option.map_some, lexeme]
      exact ⟨_, rfl, rfl⟩

/-- A spelled word is read as its lexeme. -/
theorem lexemeRereads_lexeme : LexemeRereads grammar word.lexeme := by
  have solid := word.isSolid_text apart.classes apart.tokens
  obtain ⟨node, found, parts⟩ := exists_wordNode? apart word
  rw [lexeme_eq apart word]
  refine .intro ?_ solid ?_
  · rw [← Node.text_lexeme word.text, ← lexeme_eq apart word, text_lexeme word]
  · rw [tokenChain, coreChain, Chain.read_cons]
    simp only [lexemeStage, isToken_of_isSolid solid, if_true, Chain.toNext, Chain.read_cons]
    simp only [wordStage, found, Outcome.clean, Except.map, Option.map_some, wrapToken_eq, parts]

end Words

/-- Only words, with or without marks around them, are taken by the word stage. -/
theorem wordNode?_eq_none_iff {language : BuiltIn}
    (accepted : Grammar.ofConfiguration language.configuration = .ok grammar) {text : Text} :
    wordNode? grammar text = none ↔ ∀ word : WordSpelling grammar, word.text ≠ text := by
  obtain ⟨letters, wordLetters, apart⟩ := spellsApart accepted
  constructor
  · rintro missing word rfl
    obtain ⟨node, found, -⟩ := exists_wordNode? apart word
    rw [missing] at found
    cases found
  · intro noWord
    rw [Option.eq_none_iff_forall_ne_some]
    intro built found
    obtain ⟨node, -, word⟩ := wordOutcome_of_wordNode? apart.classes found
    cases word with
    | word isWord =>
      refine noWord ⟨none, text, none, none, isWord, by simp, by simp, by simp⟩ ?_
      simp [WordSpelling.text, WordSpelling.ending]
    | decorated spelling => exact noWord spelling rfl

section Sentences

/-- The lexemes of words are rendered as the words are spelled. -/
theorem map_text_lexeme (words : List (WordSpelling grammar)) :
    (words.map WordSpelling.lexeme).map Node.text = words.map WordSpelling.text := by
  rw [List.map_map]
  exact List.map_congr_left fun word _ => text_lexeme word

variable (apart : SpellsApart grammar letters wordLetters) (sentence : SentenceSpelling grammar)

/-- What ends a spelled sentence is a mark, and it spells the terminator. -/
theorem isMark_terminator (long : ∀ c, grammar.ellipsis ≠ [c]) :
    grammar.IsMark sentence.terminator.text ∧
      Symbol.ofText grammar sentence.terminator.text = .ok sentence.terminator := by
  obtain ellipsis | ⟨c, single, isTerminator⟩ := sentence.ends
  · rw [ellipsis]
    exact ⟨.inl rfl, Symbol.ofText_ellipsis⟩
  · rw [single]
    exact ⟨.inr ⟨c, rfl, isTerminator⟩, if_neg fun same => long c same.symm⟩

/-- A spelled sentence starts with its first word, which starts a sentence. -/
theorem startsSentence_join_text :
    grammar.startsSentence (Text.join " " (sentence.words.map WordSpelling.text)) = true := by
  obtain ⟨rest, joined⟩ := Text.exists_join_eq_append " " sentence.first.text
    (sentence.others.map WordSpelling.text)
  rw [SentenceSpelling.words, List.map_cons, joined, WordSpelling.text, sentence.unopened]
  simp only [Option.toList_none, List.nil_append, List.append_assoc]
  exact Language.Grammar.startsSentence_append sentence.starts _

include apart

/-- The words of a spelled sentence are tokens, behind which the sentence goes on. -/
theorem goesOn_text : ∀ token ∈ sentence.words.map WordSpelling.text,
    token.IsSolid ∧ ¬ grammar.EndsInTerminator token := by
  intro token member
  obtain ⟨word, inside, rfl⟩ := List.mem_map.1 member
  exact ⟨word.isSolid_text apart.classes apart.tokens,
    word.not_endsInTerminator_text apart.classes apart.tokens (sentence.goesOn word inside)⟩

/-- The lexemes of a spelled sentence are read from its words. -/
theorem lexemeRereads_of_mem : ∀ lexeme ∈ sentence.words.map WordSpelling.lexeme,
    LexemeRereads grammar lexeme := by
  intro lexeme member
  obtain ⟨word, _, rfl⟩ := List.mem_map.1 member
  exact lexemeRereads_lexeme apart word

/-- A spelled sentence is read as its node. -/
theorem sentenceRereads_node : SentenceRereads grammar sentence.node := by
  obtain ⟨isMark, marked⟩ := isMark_terminator sentence apart.ellipsis
  have tokens := goesOn_text apart sentence
  have someWord : sentence.words.map WordSpelling.text ≠ [] := by simp [SentenceSpelling.words]
  refine .intro (by simp [SentenceSpelling.words]) (lexemeRereads_of_mem apart sentence) marked
    ?_ ?_ ?_ <;> rw [map_text_lexeme]
  · exact startsSentence_join_text sentence
  · exact Language.Grammar.splitTerminator?_join apart.marks apart.ellipsis someWord tokens isMark
  · rw [← List.dropLast_concat_getLast someWord]
    apply Language.Grammar.isPhrase_join_append apart.marks _ _ isMark
    · exact fun token member => tokens token (List.dropLast_subset _ member)
    · exact (tokens _ (List.getLast_mem someWord)).1

/-- A spelled sentence is rendered as it is spelled. -/
theorem text_node : sentence.node.text = sentence.text := by
  have someWord : sentence.words.map WordSpelling.lexeme ≠ [] := by simp [SentenceSpelling.words]
  rw [SentenceSpelling.node, text_of_lexemeRereads someWord (lexemeRereads_of_mem apart sentence),
    map_text_lexeme, SentenceSpelling.text]

end Sentences

section Counts

/-- The lexeme of a word has this word and symbols below it. -/
theorem count_lexeme (word : WordSpelling grammar) : word.lexeme.count .word = 1 ∧
    word.lexeme.count .sentence = 0 ∧ word.lexeme.count .paragraph = 0 := by
  have marks : ∀ kind, kind ≠ Kind.symbol → ∀ chars : List Char,
      Node.countAll kind (chars.map fun c => .symbol (.char c)) = 0 := by
    intro kind other chars
    have none : ∀ c : Char, (Node.symbol (.char c)).count kind = 0 := fun _ => if_neg other
    exact Node.countAll_map_eq_mul none chars
  refine ⟨?_, ?_, ?_⟩ <;>
    simp [WordSpelling.lexeme, Node.count, Node.countAll, Node.countAll_append, marks]

/-- A spelled sentence counts as one sentence with its words. -/
theorem count_sentence (sentence : SentenceSpelling grammar) :
    sentence.node.count .word = sentence.words.length ∧ sentence.node.count .sentence = 1 ∧
      sentence.node.count .paragraph = 0 := by
  have words := Node.countAll_map_eq_mul (fun word => (count_lexeme word).1) sentence.words
  have sentences := Node.countAll_map_eq_mul (fun word => (count_lexeme word).2.1) sentence.words
  have paragraphs := Node.countAll_map_eq_mul (fun word => (count_lexeme word).2.2) sentence.words
  refine ⟨?_, ?_, ?_⟩ <;>
    simp [SentenceSpelling.node, Node.count, Node.countAll, Node.countAll_append, words, sentences,
      paragraphs]

/-- A spelled paragraph counts as one paragraph with its sentences and their words. -/
theorem count_paragraph (paragraph : ParagraphSpelling grammar) :
    paragraph.node.count .word = paragraph.words.length ∧
      paragraph.node.count .sentence = paragraph.sentences.length ∧
      paragraph.node.count .paragraph = 1 := by
  have words := Node.countAll_map (fun sentence => (count_sentence sentence).1) paragraph.sentences
  have sentences :=
    Node.countAll_map_eq_mul (fun sentence => (count_sentence sentence).2.1) paragraph.sentences
  have paragraphs :=
    Node.countAll_map_eq_mul (fun sentence => (count_sentence sentence).2.2) paragraph.sentences
  refine ⟨?_, ?_, ?_⟩ <;>
    simp [ParagraphSpelling.node, ParagraphSpelling.words, Node.count, words, sentences, paragraphs]

end Counts

section Paragraphs

variable {language : BuiltIn}
  (accepted : Grammar.ofConfiguration language.configuration = .ok grammar)

include accepted

/-- A spelled paragraph stands on a line, and is read as its node. -/
theorem read_text (paragraph : ParagraphSpelling grammar) :
    IsLine paragraph.text ∧
      (paragraphChain grammar).read paragraph.text = .ok ⟨some paragraph.node, []⟩ := by
  obtain ⟨letters, wordLetters, apart⟩ := spellsApart accepted
  have someSentence : paragraph.sentences.map SentenceSpelling.node ≠ [] := by
    simpa using paragraph.nonempty
  have each : ∀ node ∈ paragraph.sentences.map SentenceSpelling.node,
      SentenceRereads grammar node := by
    intro node member
    obtain ⟨sentence, _, rfl⟩ := List.mem_map.1 member
    exact sentenceRereads_node apart sentence
  have texts : (paragraph.sentences.map SentenceSpelling.node).map Node.text =
      paragraph.sentences.map SentenceSpelling.text := by
    rw [List.map_map]
    exact List.map_congr_left fun sentence _ => text_node apart sentence
  have spaced := isSpaced_join_text someSentence fun sentence member =>
    (each sentence member).isPhrase.isSpaced
  have noBreak : ∀ c ∈ paragraph.indent, c ≠ '\n' ∧ c ≠ '\r' := by
    have isIndent := paragraph.isIndent
    simp only [BuiltIn.indentMarkers_eq accepted, List.mem_cons, List.not_mem_nil, or_false] at isIndent
    obtain isTab | isSpaces := isIndent
    · simp [isTab]
    · simp [isSpaces]
  have found : paragraphBody? grammar paragraph.text =
      some (Text.join " " ((paragraph.sentences.map SentenceSpelling.node).map Node.text)) := by
    rw [paragraphBody?, ParagraphSpelling.text, BuiltIn.unindented?_marker_append accepted
      paragraph.isIndent, ← texts, spaced.trim_eq]
  rw [texts] at spaced
  exact ⟨Language.isLine_append noBreak spaced,
    read_of_sentenceRereads apart.marks someSentence each found⟩

/-- Under a built-in grammar, paragraphs that are laid out with blank lines between them are read without
gaps as exactly the nodes that they spell, so that as many paragraphs, sentences and words are counted
as are spelled. -/
theorem readDocument_spelling (schedule : Schedule) {paragraphs : List (ParagraphSpelling grammar)}
    {text : Text} (laidOut : IsLaidOut (paragraphs.map ParagraphSpelling.text) text) :
    ∃ document : Document, document.children = paragraphs.map ParagraphSpelling.node ∧
      (standardChain grammar schedule).readDocument text = .ok ⟨document, []⟩ ∧
      document.paragraphCount = paragraphs.length ∧
      document.sentenceCount = (paragraphs.flatMap ParagraphSpelling.sentences).length ∧
      document.wordCount = (paragraphs.flatMap ParagraphSpelling.words).length := by
  have lines : ∀ line ∈ paragraphs.map ParagraphSpelling.text, IsLine line := by
    intro line member
    obtain ⟨paragraph, _, rfl⟩ := List.mem_map.1 member
    exact (read_text accepted paragraph).1
  have placed : Placed (paragraphChain grammar).read placeParagraph
      (paragraphs.map ParagraphSpelling.text) (paragraphs.map ParagraphSpelling.node) [] :=
    .of_map fun paragraph _ => ⟨_, (read_text accepted paragraph).2, rfl⟩
  rw [← Language.paragraphCandidates_of_isLaidOut laidOut lines] at placed
  refine ⟨⟨paragraphs.map ParagraphSpelling.node⟩, rfl, readDocument_of_placed schedule placed,
    ?_, ?_, ?_⟩
  · rw [Document.paragraphCount,
      Node.countAll_map_eq_mul (fun paragraph => (count_paragraph paragraph).2.2), Nat.mul_one]
  · exact Node.countAll_map (fun paragraph => (count_paragraph paragraph).2.1) paragraphs
  · exact Node.countAll_map (fun paragraph => (count_paragraph paragraph).1) paragraphs

end Paragraphs

/-- A quoted name in front of an ellipsis, and a paragraph of one word. -/
theorem readDocument_spelling_english :
    ∃ grammar document, Grammar.ofConfiguration .english = .ok grammar ∧
      document.children =
        [.paragraph [.sentence [.lexeme "Stop," [.word "Stop", .symbol (.char ',')],
            .lexeme "\"Ann\"" [.symbol (.char '"'), .word "Ann", .symbol (.char '"')],
            .symbol (.ellipsis "...")]],
          .paragraph [.sentence [.lexeme "Why" [.word "Why"], .symbol (.char '?')]]] ∧
      (standardChain grammar {}).readDocument "\tStop, \"Ann\"...\n\n    Why?" = .ok ⟨document, []⟩ ∧
      document.paragraphCount = 2 ∧ document.sentenceCount = 2 ∧ document.wordCount = 3 := by
  obtain ⟨grammar, accepted⟩ := BuiltIn.english.exists_ofConfiguration
  have computed : Grammar.ofConfiguration .english = .ok _ := rfl
  have explicit := Except.ok.inj (accepted.symm.trans computed)
  have isWord : ∀ text ∈ ["Stop".toList, "Ann".toList, "Why".toList], grammar.isWord text = true := by
    rw [explicit]
    decide
  have starts : ∀ text ∈ ["Stop".toList, "Why".toList], grammar.startsSentence text = true := by
    rw [explicit]
    decide
  have isEnclosure : grammar.isEnclosure '"' = true := by
    rw [explicit]
    rfl
  have isPunctuation : grammar.punctuation.contains ',' = true ∧ grammar.isTerminator ',' = false := by
    rw [explicit]
    decide
  have isTerminator : grammar.isTerminator '?' = true := by
    rw [explicit]
    rfl
  have ellipsis : Symbol.ellipsis "..." = .ellipsis grammar.ellipsis := by
    rw [explicit]
    rfl
  have isIndent : ∀ indent ∈ ["\t".toList, "    ".toList], indent ∈ grammar.indentMarkers := by
    rw [BuiltIn.indentMarkers_eq accepted]
    exact fun _ member => member
  let stop : WordSpelling grammar :=
    ⟨none, "Stop", none, some ',', isWord "Stop" (by simp), by simp, by simp,
      by simpa using isPunctuation.1⟩
  let ann : WordSpelling grammar :=
    ⟨some '"', "Ann", some '"', none, isWord "Ann" (by simp), by simpa using isEnclosure,
      by simpa using isEnclosure, by simp⟩
  let why : WordSpelling grammar :=
    ⟨none, "Why", none, none, isWord "Why" (by simp), by simp, by simp, by simp⟩
  let called : SentenceSpelling grammar :=
    ⟨stop, [ann], .ellipsis "...", rfl, starts "Stop" (by simp), by simp [stop, ann, isPunctuation.2],
      .inl ellipsis⟩
  let asked : SentenceSpelling grammar :=
    ⟨why, [], .char '?', rfl, starts "Why" (by simp), by simp [why], .inr ⟨'?', rfl, isTerminator⟩⟩
  let paragraphs : List (ParagraphSpelling grammar) :=
    [⟨"\t", [called], isIndent _ (by simp), by simp⟩, ⟨"    ", [asked], isIndent _ (by simp), by simp⟩]
  have laidOut := Language.isLaidOut_join (paragraphs.map ParagraphSpelling.text)
  obtain ⟨document, children, read, counts⟩ := readDocument_spelling accepted {} laidOut
  exact ⟨grammar, document, accepted, children, read, counts⟩

end Reading

end ProseTree
