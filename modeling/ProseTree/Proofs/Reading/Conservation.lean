import ProseTree.Proofs.Language.BuiltIn
import ProseTree.Proofs.Reading.Outcomes
import ProseTree.Proofs.Tree.Leaves

/-!
# Nothing is lost

Every character of a text that is no white space stands at least as often in the leaves of its document
and the texts of its gaps together, and exactly as often unless a node was found in the wrong place:
then the gap repeats what the discarded node holds. The count is kept by each token, each sentence and
each paragraph, and by placing them one after another.
-/

namespace ProseTree.Reading

open ProseTree.Language (CharClass ClassTables Configuration Grammar)
open ProseTree.Text (unspaced)
open ProseTree.Tree (Node Symbol)

variable {grammar : Grammar} {letters wordLetters : CharClass}

/-- How often a character stands in the leaves of some nodes and the texts of some gaps. -/
def countPlaced (c : Char) (nodes : List Node) (gaps : List Gap) : Nat :=
  (Node.leafTexts nodes).count c + (gaps.flatMap Gap.text).count c

/-- Whether the gap repeats a node that was found in the wrong place. -/
def Gap.IsMisplaced (gap : Gap) : Prop :=
  ∃ kind, gap.reason = .unexpectedKind kind

/-- No occurrence of the character in the text is missing from the nodes and gaps, and none is counted
twice where no gap repeats a node. -/
structure Accounted (c : Char) (text : Text) (nodes : List Node) (gaps : List Gap) : Prop where
  le : text.count c ≤ countPlaced c nodes gaps
  eq : (∀ gap ∈ gaps, ¬ gap.IsMisplaced) → text.count c = countPlaced c nodes gaps

namespace Accounted

variable {c : Char} {text other : Text} {nodes moreNodes : List Node} {gaps moreGaps : List Gap}

/-- A text that is kept without a difference is accounted for. -/
theorem of_eq (same : text.count c = countPlaced c nodes gaps) : Accounted c text nodes gaps :=
  ⟨Nat.le_of_eq same, fun _ => same⟩

/-- Only the number of occurrences in the text matters. -/
theorem of_count_eq (same : text.count c = other.count c) (accounted : Accounted c other nodes gaps) :
    Accounted c text nodes gaps := by
  obtain ⟨le, eq⟩ := accounted
  exact ⟨same ▸ le, same ▸ eq⟩

/-- Only the leaves of the nodes matter. -/
theorem of_leafTexts_eq (same : Node.leafTexts moreNodes = Node.leafTexts nodes)
    (accounted : Accounted c text nodes gaps) : Accounted c text moreNodes gaps := by
  obtain ⟨le, eq⟩ := accounted
  unfold countPlaced at le eq
  exact ⟨by rw [countPlaced, same]; exact le, by rw [countPlaced, same]; exact eq⟩

/-- Texts that stand behind each other are accounted for together. -/
theorem append (first : Accounted c text nodes gaps)
    (second : Accounted c other moreNodes moreGaps) :
    Accounted c (text ++ other) (nodes ++ moreNodes) (gaps ++ moreGaps) := by
  have sum : countPlaced c (nodes ++ moreNodes) (gaps ++ moreGaps) =
      countPlaced c nodes gaps + countPlaced c moreNodes moreGaps := by
    simp only [countPlaced, Node.leafTexts_append, List.flatMap_append, List.count_append]
    omega
  refine ⟨?_, ?_⟩
  · rw [sum, List.count_append]
    exact Nat.add_le_add first.le second.le
  · intro exact
    rw [sum, List.count_append, first.eq fun gap member => exact gap (List.mem_append_left _ member),
      second.eq fun gap member => exact gap (List.mem_append_right _ member)]

end Accounted

/-- Candidates that are accounted for one by one are accounted for together. -/
theorem Placed.accounted {read : Text → Except ParseError Outcome}
    {place : Text → Outcome → List Node × List Gap} {candidates : List Text} {nodes : List Node}
    {gaps : List Gap} {c : Char}
    (single : ∀ candidate ∈ candidates, ∀ outcome, read candidate = .ok outcome →
      Accounted c candidate (place candidate outcome).1 (place candidate outcome).2)
    (placed : Placed read place candidates nodes gaps) :
    Accounted c candidates.flatten nodes gaps := by
  induction placed with
  | nil => exact .of_eq rfl
  | cons known others inductionHypothesis =>
    obtain ⟨first, rest⟩ := List.forall_mem_cons.1 single
    exact (first _ known).append (inductionHypothesis rest)

/-- Candidates that a text is divided into account for the text, up to white space. -/
theorem Placed.accounted_text {read : Text → Except ParseError Outcome}
    {place : Text → Outcome → List Node × List Gap} {candidates : List Text} {nodes : List Node}
    {gaps : List Gap} {c : Char} {text : Text} (solid : Text.isBlank c = false)
    (divided : candidates.flatMap unspaced = unspaced text)
    (single : ∀ candidate ∈ candidates, ∀ outcome, read candidate = .ok outcome →
      Accounted c candidate (place candidate outcome).1 (place candidate outcome).2)
    (placed : Placed read place candidates nodes gaps) : Accounted c text nodes gaps := by
  refine (placed.accounted single).of_count_eq ?_
  rw [← Text.count_unspaced solid text, ← divided, ← Text.unspaced_flatten, Text.count_unspaced solid]

/-- The pieces of a run are its symbols and its dropped characters. -/
theorem count_flatMap_text (c : Char) (pieces : List RunPiece) :
    (pieces.flatMap RunPiece.text).count c =
      ((keptSymbols pieces).flatMap Symbol.text).count c + (droppedChars pieces).count c := by
  induction pieces with
  | nil => rfl
  | cons piece pieces inductionHypothesis =>
    cases piece with
    | kept symbol =>
      simp only [List.flatMap_cons, List.count_append, inductionHypothesis]
      change _ = (List.flatMap Symbol.text (symbol :: keptSymbols pieces)).count c +
        (droppedChars pieces).count c
      simp only [List.flatMap_cons, List.count_append, RunPiece.text]
      omega
    | dropped d =>
      simp only [List.flatMap_cons, List.count_append, inductionHypothesis]
      change _ = ((keptSymbols pieces).flatMap Symbol.text).count c +
        (d :: droppedChars pieces).count c
      rw [← List.singleton_append, List.count_append, RunPiece.text]
      omega

/-- A token is accounted for by the parts of its lexeme. -/
theorem TokenParts.accounted {token : Text} {children : List Node} {gaps : List Gap}
    (parts : TokenParts grammar token children gaps) (c : Char) : Accounted c token children gaps := by
  refine .of_eq ?_
  cases parts with
  | word isWord => simp [countPlaced, Node.leafTexts, Node.leafText]
  | @decorated opening closing trailing word isWord opens closes trails whole =>
    have leaves : ∀ marks : List Char,
        Node.leafTexts (marks.map fun c => .symbol (.ofChar grammar c)) = marks := by
      intro marks
      simp [Node.leafTexts_eq_flatMap, List.flatMap_map, Node.leafText]
    simp only [countPlaced, Node.leafTexts_append, Node.leafTexts, Node.leafText, leaves, whole]
    simp
  | expression isPlain evaluated => simp [countPlaced, Node.leafTexts, Node.leafText]
  | run nonempty =>
    have dropped : ∀ chars : List Char, (chars.map droppedGap).flatMap Gap.text = chars := by
      intro chars
      simp [List.flatMap_map, droppedGap]
    rw [countPlaced, Node.leafTexts_map_symbol, dropped, ← count_flatMap_text,
      flatMap_text_runPieces]

/-- A token is accounted for by its lexeme or its gap. -/
theorem accounted_placeLexeme {token : Text} {outcome : Outcome} (isOne : isToken token = true)
    (read : TokenOutcome grammar token outcome) (c : Char) :
    Accounted c token (placeLexeme token outcome).1 (placeLexeme token outcome).2 := by
  cases read with
  | unrecognized nothing =>
    refine .of_eq ?_
    simp [countPlaced, placeLexeme, Outcome.unrecognized, Node.leafTexts]
  | lexeme _ parts =>
    refine (parts.accounted c).of_leafTexts_eq ?_
    simp [placeLexeme, Node.leafTexts, Node.leafText]
  | fragment isNone inner => simp [isOne] at isNone

/-- A sentence is accounted for by its lexemes, their gaps and its terminator. -/
theorem SentenceParts.accounted (classes : grammar.alphabet = .classes letters wordLetters)
    {sentence : Text} {children : List Node} {gaps : List Gap}
    (parts : SentenceParts grammar sentence children gaps) {c : Char}
    (solid : Text.isBlank c = false) : Accounted c sentence children gaps := by
  cases parts with
  | @intro body mark symbol lexemes gaps starts split placed marked =>
    have tokens : Accounted c (Text.tokens body).flatten lexemes gaps := by
      refine placed.accounted fun token member outcome known => ?_
      have read := tokenOutcome_of_read classes known
      exact accounted_placeLexeme (isToken_of_mem_tokens member) read c
    have spelt := Symbol.text_of_ofText marked
    have terminator : Accounted c mark [.symbol symbol] [] :=
      .of_eq (by simp [countPlaced, Node.leafTexts, Node.leafText, spelt])
    rw [← List.append_nil gaps]
    refine (tokens.append terminator).of_count_eq ?_
    rw [List.count_append, Text.flatten_tokens, ← Text.count_unspaced solid sentence,
      ← Language.Grammar.unspaced_splitTerminator? split, List.count_append,
      Text.count_unspaced solid mark]

/-- A candidate that is a gap is accounted for by this gap, and by nothing else where the gap repeats no
node. -/
theorem accounted_misplaced {stage candidate : Text} {outcome : Outcome}
    (silent : outcome.node = none → outcome.gaps = []) (c : Char) :
    Accounted c candidate [] (outcome.gaps ++ [misplaced stage candidate outcome.node]) := by
  cases node : outcome.node with
  | none =>
    refine .of_eq ?_
    simp [countPlaced, misplaced, silent node, Node.leafTexts]
  | some found =>
    refine ⟨?_, fun exact => ?_⟩
    · simp [countPlaced, misplaced, Node.leafTexts]
    · have repeats := exact _ (List.mem_append_right _ (List.mem_singleton_self _))
      exact absurd ⟨_, rfl⟩ repeats

/-- A sentence candidate is accounted for by its sentence or its gap. -/
theorem accounted_placeSentence (classes : grammar.alphabet = .classes letters wordLetters)
    {candidate : Text} {outcome : Outcome} (read : SentenceOutcome grammar candidate outcome) {c : Char}
    (solid : Text.isBlank c = false) :
    Accounted c candidate (placeSentence candidate outcome).1 (placeSentence candidate outcome).2 := by
  cases read with
  | @sentence children gaps parts =>
    have whole : candidate.count c = (Text.trim candidate).count c := by
      rw [← Text.count_unspaced solid candidate, ← Text.unspaced_trim, Text.count_unspaced solid]
    have trimmed := (parts.accounted classes solid).of_count_eq whole
    exact trimmed.of_leafTexts_eq (by simp [placeSentence, Node.leafTexts, Node.leafText])
  | forwarded unfit token =>
    rw [placeSentence_of_ne token.ne_sentence]
    exact accounted_misplaced token.silent c

/-- The body of a paragraph is the candidate without white space at its ends. -/
theorem unspaced_paragraphBody? {candidate body : Text}
    (blankMarkers : ∀ marker ∈ grammar.indentMarkers, ∀ c ∈ marker, Text.isBlank c = true)
    (found : paragraphBody? grammar candidate = some body) : unspaced body = unspaced candidate := by
  unfold paragraphBody? at found
  split at found
  · rename_i unindented
    cases found
    exact Language.Grammar.unspaced_unindented? blankMarkers unindented
  · split at found
    · cases found
    · cases found
      exact Text.unspaced_trim candidate

/-- The body of a paragraph is accounted for by its sentences and their gaps. -/
theorem accounted_sentences (classes : grammar.alphabet = .classes letters wordLetters)
    (blankMarkers : ∀ marker ∈ grammar.indentMarkers, ∀ c ∈ marker, Text.isBlank c = true)
    {candidate body : Text} (found : paragraphBody? grammar candidate = some body)
    {sentences : List Node} {gaps : List Gap}
    (placed : Placed (sentenceChain grammar).read placeSentence (grammar.sentenceCandidates body)
      sentences gaps) {c : Char} (solid : Text.isBlank c = false) :
    Accounted c candidate sentences gaps := by
  refine placed.accounted_text solid ?_ fun sentence _ outcome known => ?_
  · rw [Language.Grammar.flatMap_unspaced_sentenceCandidates,
      unspaced_paragraphBody? blankMarkers found]
  · have read := sentenceOutcome_of_read classes known
    exact accounted_placeSentence classes read solid

/-- A paragraph candidate is accounted for by its paragraph, by the gaps below it or by its own gap. -/
theorem accounted_placeParagraph (classes : grammar.alphabet = .classes letters wordLetters)
    (blankMarkers : ∀ marker ∈ grammar.indentMarkers, ∀ c ∈ marker, Text.isBlank c = true)
    {candidate : Text} {outcome : Outcome} (read : ParagraphOutcome grammar candidate outcome)
    {c : Char} (solid : Text.isBlank c = false) :
    Accounted c candidate (placeParagraph candidate outcome).1
      (placeParagraph candidate outcome).2 := by
  cases read with
  | paragraph found nonempty placed =>
    have sentences := accounted_sentences classes blankMarkers found placed solid
    exact sentences.of_leafTexts_eq (by simp [placeParagraph, Node.leafTexts, Node.leafText])
  | @barren body gaps found placed =>
    cases gaps with
    | nil => exact accounted_misplaced (fun _ => rfl) c
    | cons gap gaps => exact accounted_sentences classes blankMarkers found placed solid
  | forwarded missing sentence =>
    -- Without a body there is no paragraph, so the candidate itself becomes a gap.
    cases sentence with
    | sentence parts =>
      rw [placeParagraph_of_ne (by simp) (by simp)]
      exact accounted_misplaced (by simp) c
    | forwarded unfit token =>
      rw [placeParagraph_of_ne token.ne_paragraph token.silent]
      exact accounted_misplaced token.silent c

/-- The paragraphs of a document and its gaps account for the text. -/
theorem accounted_document (classes : grammar.alphabet = .classes letters wordLetters)
    (blankMarkers : ∀ marker ∈ grammar.indentMarkers, ∀ c ∈ marker, Text.isBlank c = true)
    {text : Text} {paragraphs : List Node} {gaps : List Gap}
    (placed : Placed (paragraphChain grammar).read placeParagraph
      (Language.paragraphCandidates text) paragraphs gaps) {c : Char}
    (solid : Text.isBlank c = false) : Accounted c text paragraphs gaps := by
  refine placed.accounted_text solid (Language.flatMap_unspaced_paragraphCandidates text)
    fun paragraph _ outcome known => ?_
  have read := paragraphOutcome_of_read classes known
  exact accounted_placeParagraph classes blankMarkers read solid

/-- Nothing is lost silently: whatever stands in a text also stands in the leaves of its document or in
its gaps. -/
theorem accounted_readDocument [ClassTables] {configuration : Configuration} {grammar : Grammar}
    (accepted : Grammar.ofConfiguration configuration = .ok grammar)
    (plain : configuration.HasPlainLetters)
    (blankMarkers : ∀ marker ∈ configuration.paragraph.indentMarkers,
      ∀ c ∈ marker, Text.isBlank c = true) (schedule : Schedule) (text : Text) :
    ∃ reading, (standardChain grammar schedule).readDocument text = .ok reading ∧
      ∀ c, Text.isBlank c = false → Accounted c text reading.document.children reading.gaps := by
  obtain ⟨letters, wordLetters, classes⟩ := Grammar.exists_classes accepted plain
  obtain ⟨paragraphs, gaps, read, placed⟩ := exists_readDocument classes schedule text
  refine ⟨_, read, fun c solid => accounted_document classes ?_ placed solid⟩
  rw [(Grammar.follows_of_ofConfiguration accepted).indentMarkers]
  exact blankMarkers

/-- Of an English paragraph whose second sentence starts in lower case, every solid character is kept. -/
theorem accounted_readDocument_english :
    ∃ grammar reading, Grammar.ofConfiguration .english = .ok grammar ∧
      (standardChain grammar .sequential).readDocument "    The end. it was ©." = .ok reading ∧
      Accounted 'e' "    The end. it was ©." reading.document.children reading.gaps := by
  obtain ⟨grammar, accepted⟩ := Language.BuiltIn.english.exists_ofConfiguration
  obtain ⟨reading, read, accounted⟩ := accounted_readDocument accepted
    Language.BuiltIn.english.hasPlainLetters
    Language.BuiltIn.english.isBlank_of_mem_indentMarkers .sequential "    The end. it was ©."
  exact ⟨grammar, reading, accepted, read, accounted 'e' (by decide)⟩

end ProseTree.Reading
