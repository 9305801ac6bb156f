import ProseTree.Proofs.Language.Spans
import ProseTree.Proofs.Reading.Conservation

/-!
# How gaps are nested

Gaps are recorded in the order of the text, and those that are recorded while a candidate is read stand
before the gap of the candidate itself. Where nothing became of the candidate there are none of them,
so its span is recorded once. Where it became a node of the wrong kind, all that was recorded below it
stays and is repeated by the gap around it.
-/

namespace ProseTree.Reading

open ProseTree.Language (CharClass ClassTables Configuration Grammar)
open ProseTree.Text (Spans)
open ProseTree.Tree (Node)

variable {grammar : Grammar} {letters wordLetters : CharClass}

instance : DecidablePred Gap.IsMisplaced := fun gap =>
  match reason : gap.reason with
  | .unexpectedKind kind => .isTrue ⟨kind, reason⟩
  | .unrecognized | .droppedCharacter => .isFalse fun ⟨_, same⟩ => by rw [reason] at same; cases same

/-- Gaps of spans of a text, in the order of the text. A gap around others stands behind them, and is
that of a node in the wrong place. -/
inductive Recorded : Text → List Gap → Prop
  | nil {text : Text} : Recorded text []
  | cons {before after : Text} {gap : Gap} {inner others : List Gap}
      (around : inner ≠ [] → gap.IsMisplaced) (within : Recorded gap.text inner)
      (behind : Recorded after others) :
      Recorded (before ++ (gap.text ++ after)) (inner ++ gap :: others)

namespace Recorded

variable {text : Text} {gaps : List Gap}

/-- Gaps of a text are gaps of every text that ends with it. -/
theorem append_left (before : Text) (recorded : Recorded text gaps) :
    Recorded (before ++ text) gaps := by
  cases recorded with
  | nil => exact .nil
  | cons around within behind =>
    rw [← List.append_assoc]
    exact .cons around within behind

/-- Gaps of texts that stand behind each other are gaps of both together. -/
theorem append {other : Text} {more : List Gap} (first : Recorded text gaps)
    (second : Recorded other more) : Recorded (text ++ other) (gaps ++ more) := by
  induction first with
  | @nil text => exact second.append_left text
  | cons around within behind _ behindHypothesis =>
    rw [List.append_assoc, List.append_assoc, List.append_assoc, List.cons_append]
    exact .cons around within behindHypothesis

/-- Gaps of a part of a text are gaps of the text. -/
theorem of_isInfix {part : Text} (isPart : part <:+: text) (recorded : Recorded part gaps) :
    Recorded text gaps := by
  obtain ⟨before, after, rfl⟩ := isPart
  have whole := (recorded.append_left before).append (@nil after)
  rwa [List.append_nil] at whole

/-- The gap of a text stands behind the gaps of its parts. -/
theorem concat {gap : Gap} (around : gaps ≠ [] → gap.IsMisplaced)
    (within : Recorded gap.text gaps) : Recorded gap.text (gaps ++ [gap]) := by
  have whole : Recorded ([] ++ (gap.text ++ [])) (gaps ++ [gap]) := .cons around within .nil
  rwa [List.append_nil] at whole

/-- Gaps that repeat no node are spans of the text. -/
theorem spans (recorded : Recorded text gaps) :
    Spans text ((gaps.filter fun gap => ¬ gap.IsMisplaced).map Gap.text) := by
  induction recorded with
  | nil => exact .nil
  | @cons before after gap inner others around within behind withinHypothesis behindHypothesis =>
    rw [List.filter_append, List.map_append]
    -- A gap that repeats a node is left out, and its inner gaps take its place; a gap that is kept has
    -- none.
    by_cases repeats : gap.IsMisplaced
    · rw [List.filter_cons_of_neg (by simp [repeats])]
      exact (withinHypothesis.append behindHypothesis).append_left before
    · have nothingWithin : inner = [] := Decidable.by_contra fun nonempty => repeats (around nonempty)
      rw [nothingWithin, List.filter_cons_of_pos (by simp [repeats])]
      exact .cons behindHypothesis

end Recorded

/-- Gaps of candidates that are spans of a text are gaps of the text. -/
theorem Placed.recorded {read : Text → Except ParseError Outcome}
    {place : Text → Outcome → List Node × List Gap} {text : Text} {candidates : List Text}
    {nodes : List Node} {gaps : List Gap} (spans : Spans text candidates)
    (single : ∀ candidate ∈ candidates, ∀ outcome, read candidate = .ok outcome →
      Recorded candidate (place candidate outcome).2)
    (placed : Placed read place candidates nodes gaps) : Recorded text gaps := by
  induction spans generalizing nodes gaps with
  | nil =>
    cases placed
    exact .nil
  | cons others inductionHypothesis =>
    obtain ⟨first, rest⟩ := List.forall_mem_cons.1 single
    cases placed with
    | cons known placed =>
      exact ((first _ known).append (inductionHypothesis rest placed)).append_left _

/-- The dropped characters of a run are gaps of the token. -/
theorem recorded_droppedChars (pieces : List RunPiece) :
    Recorded (pieces.flatMap RunPiece.text) ((droppedChars pieces).map droppedGap) := by
  induction pieces with
  | nil => exact .nil
  | cons piece pieces inductionHypothesis =>
    rw [List.flatMap_cons]
    cases piece with
    | kept symbol => exact inductionHypothesis.append_left _
    | dropped c =>
      have single : Recorded (droppedGap c).text ([] ++ [droppedGap c]) :=
        .concat (fun nonempty => absurd rfl nonempty) .nil
      exact single.append inductionHypothesis

/-- The gaps of a token are gaps of its text. -/
theorem TokenParts.recorded {token : Text} {children : List Node} {gaps : List Gap}
    (parts : TokenParts grammar token children gaps) : Recorded token gaps := by
  cases parts with
  | word _ | decorated _ _ _ _ _ | expression _ _ => exact .nil
  | run nonempty =>
    have dropped := recorded_droppedChars (runPieces grammar token)
    rwa [flatMap_text_runPieces] at dropped

/-- What the inner stages leave of a text are gaps of it. -/
theorem recorded_read_tokenChain (classes : grammar.alphabet = .classes letters wordLetters)
    {text : Text} {outcome : Outcome} (known : (tokenChain grammar).read text = .ok outcome) :
    Recorded text outcome.gaps := by
  obtain ⟨below, read, core⟩ := read_coreChain classes text
  have kept : outcome.gaps = below.gaps := by
    rw [tokenChain, Chain.read_cons] at known
    simp only [lexemeStage, Chain.toNext, read] at known
    split at known <;> cases known <;> rfl
  rw [kept]
  cases core with
  | unrecognized _ => exact .nil
  | recognized _ parts => exact parts.recorded

/-- How a stage records a candidate: by what was recorded below it alone, or with a gap of its own
behind that. A candidate of which nothing became has a gap of its own only if nothing was recorded
below. -/
def RecordsOnce (stage candidate : Text) (outcome : Outcome) (gaps : List Gap) : Prop :=
  gaps = outcome.gaps ∨
    gaps = outcome.gaps ++ [misplaced stage candidate outcome.node] ∧
      (outcome.node = none → outcome.gaps = [])

/-- The gap of a candidate is recorded around those below it only where it repeats a node. -/
theorem RecordsOnce.recorded {stage candidate : Text} {outcome : Outcome} {gaps : List Gap}
    (once : RecordsOnce stage candidate outcome gaps) (within : Recorded candidate outcome.gaps) :
    Recorded candidate gaps := by
  obtain rfl | ⟨rfl, silent⟩ := once
  · exact within
  · cases node : outcome.node with
    | none =>
      rw [silent node]
      exact @Recorded.concat [] ⟨stage, candidate, .unrecognized⟩ (fun nonempty => absurd rfl nonempty)
        .nil
    | some found =>
      exact @Recorded.concat _ ⟨stage, candidate, .unexpectedKind found.kind⟩ (fun _ => ⟨_, rfl⟩) within

/-- A token has a gap of its own only where nothing became of it. -/
theorem recordsOnce_placeLexeme {token : Text} {outcome : Outcome}
    (silent : outcome.node = none → outcome.gaps = []) :
    RecordsOnce sentenceName token outcome (placeLexeme token outcome).2 := by
  unfold placeLexeme
  split
  · exact .inl rfl
  · exact .inl rfl
  · rename_i nothing
    exact .inr ⟨by rw [nothing]; rfl, silent⟩

/-- A sentence candidate has a gap of its own only where no sentence became of it. -/
theorem recordsOnce_placeSentence {candidate : Text} {outcome : Outcome}
    (silent : outcome.node = none → outcome.gaps = []) :
    RecordsOnce paragraphName candidate outcome (placeSentence candidate outcome).2 := by
  unfold placeSentence
  split
  · exact .inl rfl
  · exact .inr ⟨rfl, silent⟩

/-- A paragraph candidate has a gap of its own only where no paragraph became of it, and not if nothing
became of it but gaps below. -/
theorem recordsOnce_placeParagraph (candidate : Text) (outcome : Outcome) :
    RecordsOnce documentName candidate outcome (placeParagraph candidate outcome).2 := by
  unfold placeParagraph
  split
  · exact .inl rfl
  · split
    · exact .inl rfl
    · rename_i notKept
      exact .inr ⟨rfl, fun nothing => by simpa [nothing] using notKept⟩

/-- A text that is no sentence of its own is left to the inner stages. -/
theorem read_sentenceChain_of_unfit {text : Text}
    (unfit : grammar.startsSentence (Text.trim text) = false ∨
      grammar.splitTerminator? (Text.trim text) = none) :
    (sentenceChain grammar).read text = (tokenChain grammar).read (Text.trim text) := by
  rw [sentenceChain, Chain.read_cons]
  simp only [sentenceStage, Chain.toNext]
  split
  · rename_i starts
    obtain noStart | noMark := unfit
    · rw [starts] at noStart
      cases noStart
    · rw [noMark]
  · rfl

/-- What the chain from the sentence stage on leaves of a text are gaps of it. -/
theorem recorded_read_sentenceChain (classes : grammar.alphabet = .classes letters wordLetters)
    {text : Text} {outcome : Outcome} (known : (sentenceChain grammar).read text = .ok outcome) :
    Recorded text outcome.gaps := by
  cases sentenceOutcome_of_read classes known with
  | @sentence children gaps parts =>
    cases parts with
    | @intro body mark symbol lexemes gaps starts split placed marked =>
      have inBody : Recorded body gaps := by
        refine placed.recorded (Text.spans_tokens body) fun token _ outcome read => ?_
        exact (recordsOnce_placeLexeme (tokenOutcome_of_read classes read).silent).recorded
          (recorded_read_tokenChain classes read)
      exact inBody.of_isInfix
        ((Grammar.isInfix_of_splitTerminator? split).trans (Text.trim_isInfix text))
  | forwarded unfit token =>
    rw [read_sentenceChain_of_unfit unfit] at known
    exact (recorded_read_tokenChain classes known).of_isInfix (Text.trim_isInfix text)

/-- A sentence candidate of which nothing became left no gap below it. -/
theorem SentenceOutcome.silent {text : Text} {outcome : Outcome}
    (sentence : SentenceOutcome grammar text outcome) (missing : outcome.node = none) :
    outcome.gaps = [] := by
  cases sentence with
  | sentence _ => cases missing
  | forwarded _ token => exact token.silent missing

/-- The body of a paragraph is a part of the candidate. -/
theorem isInfix_of_paragraphBody? {candidate body : Text}
    (found : paragraphBody? grammar candidate = some body) : body <:+: candidate := by
  unfold paragraphBody? at found
  split at found
  · rename_i unindented
    cases found
    exact Grammar.isInfix_of_unindented? unindented
  · split at found
    · cases found
    · cases found
      exact Text.trim_isInfix candidate

/-- What the sentences of a paragraph leave of it are gaps of it. -/
theorem recorded_sentences (classes : grammar.alphabet = .classes letters wordLetters)
    {candidate body : Text} (found : paragraphBody? grammar candidate = some body)
    {sentences : List Node} {gaps : List Gap}
    (placed : Placed (sentenceChain grammar).read placeSentence (grammar.sentenceCandidates body)
      sentences gaps) : Recorded candidate gaps := by
  have inBody : Recorded body gaps := by
    refine placed.recorded (Grammar.spans_sentenceCandidates body) fun sentence _ outcome read => ?_
    exact (recordsOnce_placeSentence (sentenceOutcome_of_read classes read).silent).recorded
      (recorded_read_sentenceChain classes read)
  exact inBody.of_isInfix (isInfix_of_paragraphBody? found)

/-- A text without a paragraph body is left to the stages that read a sentence. -/
theorem read_paragraphChain_of_missing {text : Text} (missing : paragraphBody? grammar text = none) :
    (paragraphChain grammar).read text = (sentenceChain grammar).read text := by
  rw [paragraphChain, Chain.read_cons]
  simp only [paragraphStage, missing, Chain.toNext]

/-- What the chain from the paragraph stage on leaves of a text are gaps of it. -/
theorem recorded_read_paragraphChain (classes : grammar.alphabet = .classes letters wordLetters)
    {text : Text} {outcome : Outcome} (known : (paragraphChain grammar).read text = .ok outcome) :
    Recorded text outcome.gaps := by
  cases paragraphOutcome_of_read classes known with
  | paragraph found _ placed => exact recorded_sentences classes found placed
  | barren found placed => exact recorded_sentences classes found placed
  | forwarded missing _ =>
    rw [read_paragraphChain_of_missing missing] at known
    exact recorded_read_sentenceChain classes known

/-- The gaps of a text are recorded in its order, and a gap is recorded around others only where a
candidate became a node of the wrong kind. All other gaps are spans of the text that do not overlap:
a paragraph candidate and a sentence candidate of which nothing became are recorded by themselves or
by the gaps below them, never by both. -/
theorem recorded_readDocument [ClassTables] {configuration : Configuration} {grammar : Grammar}
    (accepted : Grammar.ofConfiguration configuration = .ok grammar)
    (plain : configuration.HasPlainLetters) (schedule : Schedule) (text : Text) :
    ∃ reading, (standardChain grammar schedule).readDocument text = .ok reading ∧
      Recorded text reading.gaps ∧
      Spans text ((reading.gaps.filter fun gap => ¬ gap.IsMisplaced).map Gap.text) ∧
      (∀ candidate ∈ Language.paragraphCandidates text,
        ∃ outcome, (paragraphChain grammar).read candidate = .ok outcome ∧
          RecordsOnce documentName candidate outcome (placeParagraph candidate outcome).2) ∧
      ∀ body, ∀ candidate ∈ grammar.sentenceCandidates body,
        ∃ outcome, (sentenceChain grammar).read candidate = .ok outcome ∧
          RecordsOnce paragraphName candidate outcome (placeSentence candidate outcome).2 := by
  obtain ⟨letters, wordLetters, classes⟩ := Grammar.exists_classes accepted plain
  obtain ⟨paragraphs, gaps, read, placed⟩ := exists_readDocument classes schedule text
  have recorded : Recorded text gaps := by
    refine placed.recorded (Language.spans_paragraphCandidates text) fun candidate _ outcome known => ?_
    exact (recordsOnce_placeParagraph candidate outcome).recorded
      (recorded_read_paragraphChain classes known)
  refine ⟨_, read, recorded, recorded.spans, fun candidate _ => ?_, fun body candidate _ => ?_⟩
  · obtain ⟨outcome, known, -⟩ := read_paragraphChain classes candidate
    exact ⟨outcome, known, recordsOnce_placeParagraph candidate outcome⟩
  · obtain ⟨outcome, known, sentence⟩ := read_sentenceChain classes candidate
    exact ⟨outcome, known, recordsOnce_placeSentence sentence.silent⟩

/-- A character without a meaning in a paragraph, and a paragraph that is none. -/
theorem recorded_readDocument_english :
    ∃ grammar reading, Grammar.ofConfiguration .english = .ok grammar ∧
      (standardChain grammar .sequential).readDocument "\tPrice § today.\n\nno capital" = .ok reading ∧
      Recorded "\tPrice § today.\n\nno capital" reading.gaps ∧
      Spans "\tPrice § today.\n\nno capital"
        ((reading.gaps.filter fun gap => ¬ gap.IsMisplaced).map Gap.text) := by
  obtain ⟨grammar, accepted⟩ := Language.BuiltIn.english.exists_ofConfiguration
  obtain ⟨reading, read, recorded, spans, -⟩ := recorded_readDocument accepted
    Language.BuiltIn.english.hasPlainLetters .sequential "\tPrice § today.\n\nno capital"
  exact ⟨grammar, reading, accepted, read, recorded, spans⟩

/-- The gaps that the English chain leaves of a text. -/
def englishGaps (text : Text) : List Gap :=
  match Grammar.ofConfiguration .english with
  | .error _ => []
  | .ok grammar =>
    match (standardChain grammar .sequential).readDocument text with
    | .error _ => []
    | .ok reading => reading.gaps

/-- A sentence without its paragraph is a gap around the gap of one of its characters. -/
theorem english_gaps_overlap :
    englishGaps "Hello § world." =
        [⟨sentenceName, "§", .unrecognized⟩,
          ⟨documentName, "Hello § world.", .unexpectedKind .sentence⟩] ∧
      ¬ Spans "Hello § world." ((englishGaps "Hello § world.").map Gap.text) := by
  have gaps : englishGaps "Hello § world." = [⟨sentenceName, "§", .unrecognized⟩,
      ⟨documentName, "Hello § world.", .unexpectedKind .sentence⟩] := by
    decide +kernel
  refine ⟨gaps, fun spans => ?_⟩
  rw [gaps] at spans
  exact absurd spans.length_flatten_le (by decide)

end ProseTree.Reading
