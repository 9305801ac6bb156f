import ProseTree.Proofs.Reading.Phrases
import ProseTree.Proofs.Reading.ReadWords

/-!
# The words of a phrase

The words that are found when a phrase is read again. A lexeme that stands for its token is found again, and
one that lost characters can have become a word. A phrase that does not start like a sentence loses its
words: it stood behind a lexeme that lost characters and ends in a terminator.
-/

namespace ProseTree.Reading

open ProseTree.Language (CharClass Grammar)
open ProseTree.Tree (Node Symbol)

variable {grammar : Grammar} {letters wordLetters : CharClass}

section Numbers

/-- A lexeme that is rendered as another text than it stands for, and this text is a word or a decorated
word. -/
def becomesWord (grammar : Grammar) (lexeme : Node) : Bool :=
  lexeme.text != sourceOf lexeme && isWordToken grammar lexeme.text

/-- Of a lexeme that lost characters, what is left ends in no terminator. -/
def EndsNoSentence (grammar : Grammar) (lexeme : Node) : Prop :=
  lexeme.text ≠ sourceOf lexeme → ¬ grammar.EndsInTerminator lexeme.text

instance (grammar : Grammar) (lexeme : Node) : Decidable (EndsNoSentence grammar lexeme) :=
  inferInstanceAs (Decidable (lexeme.text ≠ sourceOf lexeme → ¬ grammar.EndsInTerminator lexeme.text))

/-- A lexeme that is rendered as another text than it stands for, of which a word or a decorated word is
found when it is read again. -/
def gainsWord (grammar : Grammar) (rendered : RenderedLexeme) : Bool :=
  rendered.lexeme.text != sourceOf rendered.lexeme &&
    isWordToken grammar (grammar.withoutMark rendered.token)

/-- Whether a phrase is a sentence again. -/
def startsPhrase (grammar : Grammar) (phrase : List RenderedLexeme) : Bool :=
  grammar.startsSentence (phraseText phrase)

/-- The words of a phrase. -/
def phraseWords (phrase : List RenderedLexeme) : Nat :=
  Node.countAll .word (phrase.map RenderedLexeme.lexeme)

/-- The words of a phrase that are not found again. -/
def lostWords (grammar : Grammar) (phrase : List RenderedLexeme) : Nat :=
  if startsPhrase grammar phrase then 0 else phraseWords phrase

/-- The words of a phrase that are found again and were none. -/
def gainedWords (grammar : Grammar) (phrase : List RenderedLexeme) : Nat :=
  if startsPhrase grammar phrase then phrase.countP (gainsWord grammar) else 0

/-- A rendered token is a word when it was one before, and when it becomes one. -/
def IsRecounted (grammar : Grammar) (rendered : RenderedLexeme) : Prop :=
  (if isWordToken grammar (grammar.withoutMark rendered.token) then 1 else 0) =
    rendered.lexeme.count .word + if gainsWord grammar rendered then 1 else 0

/-- The words that are found in recounted tokens. -/
theorem countP_isWordToken {phrase : List RenderedLexeme}
    (each : ∀ rendered ∈ phrase, IsRecounted grammar rendered) :
    phrase.countP (fun rendered => isWordToken grammar (grammar.withoutMark rendered.token)) =
      phraseWords phrase + phrase.countP (gainsWord grammar) := by
  induction phrase with
  | nil => rfl
  | cons rendered phrase inductionHypothesis =>
    obtain ⟨first, others⟩ := List.forall_mem_cons.1 each
    have following := inductionHypothesis others
    rw [IsRecounted] at first
    rw [phraseWords] at following ⊢
    rw [List.countP_cons, List.countP_cons, List.map_cons, Node.countAll]
    omega

end Numbers

section Phrases

variable (classes : grammar.alphabet = .classes letters wordLetters)

include classes

/-- Without its mark, a token is a token again or nothing, which is no word. -/
theorem countP_tokens_withoutMark {token : Text} (solid : token.IsSolid) :
    (Text.tokens (grammar.withoutMark token)).countP (isWordToken grammar) =
      if isWordToken grammar (grammar.withoutMark token) then 1 else 0 := by
  have noBlank : ∀ c ∈ grammar.withoutMark token, Text.isBlank c = false :=
    fun c member => solid.noBlank c (Language.Grammar.mem_of_mem_withoutMark member)
  by_cases nothing : grammar.withoutMark token = []
  · rw [nothing, isWordToken_nil classes]
    rfl
  · have isOne : Text.tokens (grammar.withoutMark token) = [grammar.withoutMark token] :=
      Text.tokens_join (List.forall_mem_singleton.2 ⟨nothing, noBlank⟩)
    rw [isOne, List.countP_singleton]

variable (apart : grammar.SetsMarksApart)

include apart

/-- A phrase that starts like a sentence is read into the words that its tokens are without the mark at
their end. -/
theorem sentenceWords_phraseText {phrase : List RenderedLexeme} (isPhrase : IsPhrase grammar phrase) :
    sentenceWords grammar (phraseText phrase) =
      if startsPhrase grammar phrase then
        phrase.countP fun rendered => isWordToken grammar (grammar.withoutMark rendered.token)
      else 0 := by
  have spaced := isPhrase.isPhrase_text.isSpaced
  rw [sentenceWords, spaced.trim_eq, startsPhrase]
  cases isPhrase with
  | @intro front last each solid ends =>
    obtain ⟨body, mark, split, tokens⟩ := Language.Grammar.exists_splitTerminator?_join apart
      (List.forall_mem_map.2 fun rendered member => (each rendered member).1) solid ends
    have inFront : (front.map RenderedLexeme.token).countP (isWordToken grammar) =
        front.countP fun rendered => isWordToken grammar (grammar.withoutMark rendered.token) := by
      rw [List.countP_map]
      refine List.countP_congr fun rendered member => ?_
      rw [Language.Grammar.withoutMark_eq_self apart (each rendered member).2]
      rfl
    have sameText : phraseText (front ++ [last]) =
        Text.join " " (front.map RenderedLexeme.token ++ [last.token]) := by
      rw [phraseText, List.map_append, List.map_singleton]
    rw [sameText, split]
    simp only [tokens, List.countP_append, List.countP_singleton, inFront,
      countP_tokens_withoutMark classes solid]

/-- The words of a phrase that is read again. -/
theorem sentenceWords_add_lostWords {phrase : List RenderedLexeme} (isPhrase : IsPhrase grammar phrase)
    (each : ∀ rendered ∈ phrase, IsRecounted grammar rendered) :
    sentenceWords grammar (phraseText phrase) + lostWords grammar phrase =
      phraseWords phrase + gainedWords grammar phrase := by
  rw [sentenceWords_phraseText classes apart isPhrase, lostWords, gainedWords]
  split
  · rw [countP_isWordToken each, Nat.add_zero]
  · rw [Nat.zero_add, Nat.add_zero]

end Phrases

section Lexemes

/-- A lexeme that is rendered as a token, which holds its word if it is the token that it stands for. -/
structure IsTokenLexeme (grammar : Grammar) (lexeme : Node) : Prop where
  isLexeme : lexeme.kind = .lexeme
  solid : lexeme.text.IsSolid
  starts : grammar.startsSentence (sourceOf lexeme) = true → grammar.startsSentence lexeme.text = true
  words : lexeme.count .word =
    if lexeme.text = sourceOf lexeme ∧ isWordToken grammar lexeme.text then 1 else 0

/-- A rendered lexeme that does not end a sentence in its own right is found again in front of its mark. -/
def IsFound (grammar : Grammar) (rendered : RenderedLexeme) : Prop :=
  EndsNoSentence grammar rendered.lexeme →
    grammar.withoutMark rendered.token = rendered.lexeme.text

/-- A token lexeme that is found in front of its mark is recounted. -/
theorem isRecounted_of_isFound {rendered : RenderedLexeme}
    (tokenLexeme : IsTokenLexeme grammar rendered.lexeme) (found : IsFound grammar rendered) :
    IsRecounted grammar rendered := by
  rw [IsRecounted, tokenLexeme.words, gainsWord]
  by_cases same : rendered.lexeme.text = sourceOf rendered.lexeme
  · have inFront := found fun lost => absurd same lost
    simp [← same, inFront]
  · simp [same]

/-- A lexeme that is found becomes a word where a word is gained. -/
theorem gainsWord_of_isFound {rendered : RenderedLexeme} (found : IsFound grammar rendered)
    (goesOn : EndsNoSentence grammar rendered.lexeme) :
    gainsWord grammar rendered = becomesWord grammar rendered.lexeme := by
  rw [gainsWord, becomesWord, found goesOn]

variable (classes : grammar.alphabet = .classes letters wordLetters) (apart : grammar.SetsMarksApart)

include classes apart

/-- A token without an expression becomes a lexeme that is rendered as a token. -/
theorem isTokenLexeme_of_parts {token : Text} {children : List Node} {gaps : List Gap}
    (isOne : isToken token = true) (solid : token.IsSolid)
    (known : (tokenChain grammar).read token = .ok ⟨some (.lexeme token children), gaps⟩)
    (parts : TokenParts grammar token children gaps)
    (noExpression : Node.countAll .expression children = 0) :
    IsTokenLexeme grammar (.lexeme token children) := by
  have rendered := Node.text_lexeme token children
  have words := countAll_word_of_read_tokenChain classes isOne known
  by_cases same : children.flatMap Node.text = token
  · rw [same] at rendered
    exact ⟨rfl, rendered ▸ solid, fun starts => rendered ▸ starts, by
      simp [Node.count, words, rendered, sourceOf, isWordToken]⟩
  · obtain ⟨nonempty, kept, noWord⟩ := (parts.flatMap_text_or noExpression).resolve_left same
    rw [kept] at rendered same
    exact ⟨rfl, rendered ▸ isSolid_keptText solid nonempty,
      fun starts => rendered ▸ startsSentence_keptText apart starts, by
        simp [Node.count, noWord, rendered, sourceOf, same]⟩

/-- The lexemes of a sentence stand for tokens of its body in order, and are rendered as tokens. -/
theorem Placed.isTokenLexeme {body : Text} {lexemes : List Node} {gaps : List Gap}
    (placed : Placed (tokenChain grammar).read placeLexeme (Text.tokens body) lexemes gaps) :
    (lexemes.map sourceOf).Sublist (Text.tokens body) ∧
      ∀ lexeme ∈ lexemes, lexeme.count .expression = 0 → IsTokenLexeme grammar lexeme := by
  have cases : ∀ token ∈ Text.tokens body, ∀ outcome, (tokenChain grammar).read token = .ok outcome →
      placeLexeme token outcome = ([], [⟨sentenceName, token, .unrecognized⟩]) ∨ ∃ children gaps,
        outcome = ⟨some (.lexeme token children), gaps⟩ ∧ TokenParts grammar token children gaps :=
    fun token member outcome known =>
      placeLexeme_cases (isToken_of_mem_tokens member) (tokenOutcome_of_read classes known)
  constructor
  · refine placed.map_sublist fun token member outcome known => ?_
    obtain lost | ⟨children, gaps, rfl, _⟩ := cases token member outcome known
    · rw [lost]
      exact List.nil_sublist _
    · exact List.Sublist.refl _
  · refine placed.forall_nodes fun token member outcome known => ?_
    obtain lost | ⟨children, gaps, rfl, parts⟩ := cases token member outcome known
    · simp [lost]
    · intro lexeme inside noExpression
      obtain rfl := List.mem_singleton.1 inside
      exact isTokenLexeme_of_parts classes apart (isToken_of_mem_tokens member)
        (Text.isSolid_of_mem_tokens member) known parts (by simpa [Node.count] using noExpression)

end Lexemes

section Sentences

/-- A list without its last element is found in front of the last element. -/
theorem sublist_dropLast {α : Type} {front list : List α} {last : α}
    (sublist : (front ++ [last]).Sublist list) : front.Sublist list.dropLast := by
  obtain ⟨before, after, rfl, inBefore, inAfter⟩ := List.append_sublist_iff.1 sublist
  have nonempty : after ≠ [] := by
    rintro rfl
    cases inAfter
  rw [List.dropLast_append_of_ne_nil nonempty]
  exact inBefore.trans (List.sublist_append_left before _)

section Marks

variable {sentence body : Text} {front : List Node} {last : Node} {symbol : Symbol}

/-- The lexemes of a sentence are those that are rendered. -/
theorem lexemes_sentence (isLexeme : ∀ lexeme ∈ front ++ [last], lexeme.kind = .lexeme) :
    Node.lexemes (.sentence (front ++ [last] ++ [.symbol symbol])) =
      (renderedParts (front ++ [last] ++ [.symbol symbol])).map RenderedLexeme.lexeme := by
  rw [lexeme_renderedParts, Node.lexemes, Node.lexemesAll_append, Node.lexemesAll_eq_self isLexeme]
  simp [Node.lexemesAll, Node.lexemes]

/-- The words of a sentence are those of the lexemes that are rendered. -/
theorem count_word_sentence :
    Node.count .word (.sentence (front ++ [last] ++ [.symbol symbol])) =
      phraseWords (renderedParts (front ++ [last] ++ [.symbol symbol])) := by
  rw [phraseWords, lexeme_renderedParts, Node.count, Node.countAll_append]
  simp [Node.countAll, Node.count]

variable (unbroken : grammar.IsUnbroken sentence)
  (split : grammar.splitTerminator? sentence = some (body, symbol.text))
  (sources : ((front ++ [last]).map sourceOf).Sublist (Text.tokens body))

include unbroken split sources

/-- No lexeme in front of the last one ends in a terminator, unless it lost characters. -/
theorem not_endsInTerminator_of_mem_front {lexeme : Node} (member : lexeme ∈ front)
    (goesOn : EndsNoSentence grammar lexeme) : ¬ grammar.EndsInTerminator lexeme.text := by
  intro ends
  by_cases same : lexeme.text = sourceOf lexeme
  · rw [List.map_append, List.map_singleton] at sources
    have inFront := (sublist_dropLast sources).mem (List.mem_map_of_mem member)
    rw [← same] at inFront
    exact Language.Grammar.not_endsInTerminator_of_mem_dropLast unbroken split inFront ends
  · exact goesOn same ends

/-- The last lexeme is found in front of the mark, unless it lost characters and ends in a terminator. -/
theorem withoutMark_append_mark (apart : grammar.SetsMarksApart) (solid : last.text.IsSolid)
    (goesOn : EndsNoSentence grammar last) :
    grammar.withoutMark (last.text ++ symbol.text) = last.text := by
  obtain ⟨_, _, _, isMark, preferred⟩ := Language.Grammar.splitTerminator?_eq_some split
  refine Language.Grammar.withoutMark_append apart solid isMark (preferred.imp_right fun noEllipsis => ?_)
  refine Language.Grammar.noEllipsis_of_mem_tokens unbroken split apart (fun ends => ?_) noEllipsis
  have same : last.text = sourceOf last :=
    Decidable.byContradiction fun lost => goesOn lost ends
  rw [same]
  exact sources.mem (List.mem_map_of_mem (List.mem_append_right _ (List.mem_singleton_self last)))

/-- The lexemes of a sentence are found in front of their marks. -/
theorem isFound_of_mem_renderedParts (apart : grammar.SetsMarksApart)
    (each : ∀ lexeme ∈ front ++ [last], IsTokenLexeme grammar lexeme) {rendered : RenderedLexeme}
    (member : rendered ∈ renderedParts (front ++ [last] ++ [.symbol symbol])) :
    IsTokenLexeme grammar rendered.lexeme ∧ IsFound grammar rendered := by
  rw [renderedParts_append] at member
  obtain inFront | isLast := List.mem_append.1 member
  · obtain ⟨lexeme, inside, rfl⟩ := List.mem_map.1 inFront
    refine ⟨each lexeme (List.mem_append_left _ inside), fun goesOn => ?_⟩
    exact Language.Grammar.withoutMark_eq_self apart
      (not_endsInTerminator_of_mem_front unbroken split sources inside goesOn)
  · have tokenLexeme := each last (List.mem_append_right _ (List.mem_singleton_self last))
    rw [List.mem_singleton.1 isLast]
    exact ⟨tokenLexeme, withoutMark_append_mark unbroken split sources apart tokenLexeme.solid⟩

end Marks

/-- Token lexemes of which the first one starts like a sentence are rendered as a text that does so. -/
theorem startsSentence_text_sentence {lexemes : List Node} {symbol : Symbol} (nonempty : lexemes ≠ [])
    (each : ∀ lexeme ∈ lexemes, IsTokenLexeme grammar lexeme)
    (starts : StartsWithLexeme grammar (lexemes ++ [.symbol symbol])) :
    grammar.startsSentence (Node.text (.sentence (lexemes ++ [.symbol symbol]))) = true := by
  obtain ⟨source, parts, following, first, startsFirst⟩ := starts
  rw [Node.text_sentence nonempty fun lexeme member => by simp [(each lexeme member).isLexeme]]
  obtain ⟨head, rest, rfl⟩ := List.exists_cons_of_ne_nil nonempty
  obtain ⟨rfl, -⟩ := List.cons.inj first
  obtain ⟨more, joined⟩ := Text.exists_join_eq_append " " (Node.text (.lexeme source parts))
    (rest.map Node.text)
  rw [List.map_cons, joined, List.append_assoc]
  exact Language.Grammar.startsSentence_append ((each _ List.mem_cons_self).starts startsFirst) _

/-- A sentence that is rendered so that its words can be counted again. -/
structure SentenceRecounts (grammar : Grammar) (sentence : Node) : Prop where
  rendered : IsRendered grammar sentence
  words : sentence.count .word = phraseWords (renderedLexemes sentence)
  lexemes : sentence.lexemes = (renderedLexemes sentence).map RenderedLexeme.lexeme
  starts : startsPhrase grammar (renderedLexemes sentence) = true
  each : ∀ rendered ∈ renderedLexemes sentence,
    IsTokenLexeme grammar rendered.lexeme ∧ IsFound grammar rendered
  goesOn : ∀ rendered ∈ (renderedLexemes sentence).dropLast, EndsNoSentence grammar rendered.lexeme →
    ¬ grammar.EndsInTerminator rendered.token

variable (classes : grammar.alphabet = .classes letters wordLetters) (apart : grammar.SetsMarksApart)

include classes apart

/-- The parts of an unbroken sentence without expressions can be counted again. -/
theorem SentenceParts.sentenceRecounts {sentence : Text} {children : List Node} {gaps : List Gap}
    (parts : SentenceParts grammar sentence children gaps) (unbroken : grammar.IsUnbroken sentence)
    (noExpression : Node.countAll .expression children = 0) :
    SentenceRecounts grammar (.sentence children) := by
  have startsWithLexeme := parts.startsWithLexeme classes apart
  cases parts with
  | @intro body mark symbol lexemes gaps starts split placed marked =>
    have nonempty : lexemes ≠ [] := by
      rintro rfl
      obtain ⟨_, _, _, first, -⟩ := startsWithLexeme
      cases first
    obtain ⟨_, _, _, isMark, -⟩ := Language.Grammar.splitTerminator?_eq_some split
    obtain ⟨sources, tokenLexemes⟩ := Placed.isTokenLexeme classes apart placed
    have each : ∀ lexeme ∈ lexemes, IsTokenLexeme grammar lexeme := by
      intro lexeme member
      have inside := List.mem_append_left [.symbol symbol] member
      exact tokenLexemes lexeme member (Node.countAll_eq_zero_iff.1 noExpression lexeme inside)
    have spelled := Symbol.text_of_ofText marked
    subst spelled
    have whole := (List.dropLast_concat_getLast nonempty).symm
    generalize lexemes.dropLast = front at whole
    generalize lexemes.getLast nonempty = last at whole
    subst whole
    have rendered : IsRendered grammar (.sentence (front ++ [last] ++ [.symbol symbol])) :=
      isRendered_sentence apart isMark fun lexeme member =>
        ⟨(each lexeme member).isLexeme, (each lexeme member).solid⟩
    refine ⟨rendered, count_word_sentence, ?_, ?_, fun lexeme member => ?_, ?_⟩
    · exact lexemes_sentence fun lexeme member => (each lexeme member).isLexeme
    · rw [startsPhrase, ← rendered.text_eq]
      exact startsSentence_text_sentence nonempty each startsWithLexeme
    · exact isFound_of_mem_renderedParts unbroken split sources apart each member
    · rw [renderedLexemes, renderedParts_append, List.dropLast_concat]
      exact List.forall_mem_map.2 fun lexeme member =>
        not_endsInTerminator_of_mem_front unbroken split sources member

omit classes apart in
/-- Where no lexeme of a sentence ends it in its own right, no word is lost, and one is gained for each
lexeme that becomes a word. -/
theorem SentenceRecounts.words_of_endsNoSentence {sentence : Node}
    (recounts : SentenceRecounts grammar sentence)
    (goesOn : ∀ rendered ∈ renderedLexemes sentence, EndsNoSentence grammar rendered.lexeme) :
    lostWords grammar (renderedLexemes sentence) = 0 ∧
      gainedWords grammar (renderedLexemes sentence) =
        sentence.lexemes.countP (becomesWord grammar) := by
  rw [lostWords, gainedWords, recounts.starts, recounts.lexemes, List.countP_map]
  refine ⟨rfl, List.countP_congr fun rendered member => ?_⟩
  rw [gainsWord_of_isFound (recounts.each rendered member).2 (goesOn rendered member)]
  rfl

end Sentences

end ProseTree.Reading
