import ProseTree.Proofs.Reading.Rereading
import ProseTree.Proofs.Tree.Leaves

/-!
# The phrases of a rendered paragraph

A rendered paragraph is its lexemes with spaces between them, and the mark of each sentence stands behind
the last lexeme of the sentence. Read again, it is cut behind every token that ends in a terminator. These
phrases are the sentences, as long as no lexeme in front of a mark ends in a terminator itself.
-/

namespace ProseTree.Reading

open ProseTree.Language (Grammar IsLine)
open ProseTree.Tree (Node Symbol)

section Cuts

variable {α : Type} {ends : α → Prop} [DecidablePred ends]

/-- The pieces of a list that is cut behind certain items. -/
def cutBehind (ends : α → Prop) [DecidablePred ends] : List α → List (List α)
  | [] => []
  | item :: items =>
    if ends item then [item] :: cutBehind ends items
    else match cutBehind ends items with
      | [] => [[item]]
      | piece :: pieces => (item :: piece) :: pieces

/-- The pieces make the list. -/
theorem flatten_cutBehind (items : List α) : (cutBehind ends items).flatten = items := by
  induction items with
  | nil => rfl
  | cons item items inductionHypothesis =>
    rw [cutBehind]
    split
    · rw [List.flatten_cons, inductionHypothesis, List.singleton_append]
    · split <;> rename_i pieces
      all_goals rw [pieces] at inductionHypothesis
      · rw [← inductionHypothesis]
        rfl
      · rw [← inductionHypothesis]
        rfl

/-- The list is cut behind the first item that ends a piece. -/
theorem cutBehind_append_cons {front : List α} (goesOn : ∀ item ∈ front, ¬ ends item) {last : α}
    (isEnd : ends last) (items : List α) :
    cutBehind ends (front ++ last :: items) = (front ++ [last]) :: cutBehind ends items := by
  induction front with
  | nil => rw [List.nil_append, cutBehind, if_pos isEnd, List.nil_append]
  | cons item front inductionHypothesis =>
    obtain ⟨first, others⟩ := List.forall_mem_cons.1 goesOn
    rw [List.cons_append, cutBehind, if_neg first, inductionHypothesis others, List.cons_append]

/-- Where the last item ends a piece, so does the last item of every piece, and no other item does. -/
theorem exists_of_mem_cutBehind {items : List α} (isEnded : ∀ item ∈ items.getLast?, ends item)
    {piece : List α} (member : piece ∈ cutBehind ends items) :
    ∃ front last, piece = front ++ [last] ∧ (∀ item ∈ front, ¬ ends item) ∧ ends last := by
  induction items generalizing piece with
  | nil => cases member
  | cons item items inductionHypothesis =>
    have restEnded : ∀ last ∈ items.getLast?, ends last := by
      intro last final
      refine isEnded last ?_
      rw [List.getLast?_cons, Option.mem_def.1 final]
      rfl
    have inRest := @inductionHypothesis restEnded
    by_cases isEnd : ends item
    · rw [cutBehind, if_pos isEnd] at member
      obtain rfl | behind := List.mem_cons.1 member
      · exact ⟨[], item, rfl, by simp, isEnd⟩
      · exact inRest behind
    · rw [cutBehind, if_neg isEnd] at member
      have whole : (cutBehind ends items).flatten = items := flatten_cutBehind items
      split at member <;> rename_i pieces <;> rw [pieces] at whole
      · -- The item would be the last one.
        subst whole
        exact absurd (isEnded item rfl) isEnd
      · rename_i next others
        rw [pieces] at inRest
        obtain rfl | behind := List.mem_cons.1 member
        · obtain ⟨front, last, rfl, goesOn, lastEnds⟩ := inRest List.mem_cons_self
          exact ⟨item :: front, last, rfl, List.forall_mem_cons.2 ⟨isEnd, goesOn⟩, lastEnds⟩
        · exact inRest (List.mem_cons_of_mem next behind)

end Cuts

section Rendered

/-- A lexeme and the token that it is rendered as. -/
structure RenderedLexeme where
  lexeme : Node
  token : Text

/-- The lexemes among the children of a sentence, with the mark behind the last one. -/
def renderedParts : List Node → List RenderedLexeme
  | [] | [_] => []
  | [last, mark] => [⟨last, last.text ++ mark.text⟩]
  | first :: second :: third :: others =>
    ⟨first, first.text⟩ :: renderedParts (second :: third :: others)

/-- The lexemes of a sentence as they are rendered. -/
def renderedLexemes : Node → List RenderedLexeme
  | .sentence children => renderedParts children
  | _ => []

/-- The phrases that a rendered paragraph is divided into. -/
def phrases (grammar : Grammar) : Node → List (List RenderedLexeme)
  | .paragraph sentences =>
    cutBehind (fun rendered => grammar.EndsInTerminator rendered.token)
      (sentences.flatMap renderedLexemes)
  | _ => []

/-- The text of a phrase. -/
def phraseText (phrase : List RenderedLexeme) : Text :=
  Text.join " " (phrase.map RenderedLexeme.token)

/-- Only the last lexeme is rendered with the mark. -/
theorem renderedParts_append (front : List Node) (last mark : Node) :
    renderedParts (front ++ [last] ++ [mark]) =
      front.map (fun lexeme => ⟨lexeme, lexeme.text⟩) ++ [⟨last, last.text ++ mark.text⟩] := by
  rw [List.append_assoc, List.singleton_append]
  induction front with
  | nil => rfl
  | cons first front inductionHypothesis =>
    obtain ⟨second, third, others, more⟩ :
        ∃ second third others, front ++ [last, mark] = second :: third :: others := by
      cases front with
      | nil => exact ⟨last, mark, [], rfl⟩
      | cons second front => cases front <;> exact ⟨_, _, _, rfl⟩
    rw [List.cons_append, more, renderedParts, ← more, inductionHypothesis]
    rfl

/-- All but the mark are lexemes. -/
theorem lexeme_renderedParts (front : List Node) (last mark : Node) :
    (renderedParts (front ++ [last] ++ [mark])).map RenderedLexeme.lexeme = front ++ [last] := by
  rw [renderedParts_append, List.map_append, List.map_map]
  exact congrArg (· ++ [last]) (List.map_id front)

end Rendered

variable {grammar : Grammar}

/-- A sentence that is rendered as tokens with spaces between them, of which the last one ends in a
terminator. -/
structure IsRendered (grammar : Grammar) (sentence : Node) : Prop where
  nonempty : renderedLexemes sentence ≠ []
  text_eq : sentence.text = phraseText (renderedLexemes sentence)
  solid : ∀ rendered ∈ renderedLexemes sentence, rendered.token.IsSolid
  isEnded : ∀ rendered ∈ (renderedLexemes sentence).getLast?, grammar.EndsInTerminator rendered.token

/-- Lexemes and a mark are rendered as such a sentence. -/
theorem isRendered_sentence (apart : grammar.SetsMarksApart) {front : List Node} {last : Node}
    {symbol : Symbol} (isMark : grammar.IsMark symbol.text)
    (each : ∀ lexeme ∈ front ++ [last], lexeme.kind = .lexeme ∧ lexeme.text.IsSolid) :
    IsRendered grammar (.sentence (front ++ [last] ++ [.symbol symbol])) := by
  have lastSolid := (each last (by simp)).2
  have marked := Language.Grammar.solid_append_mark apart lastSolid isMark
  have parts : renderedLexemes (.sentence (front ++ [last] ++ [.symbol symbol])) =
      front.map (fun lexeme => ⟨lexeme, lexeme.text⟩) ++ [⟨last, last.text ++ symbol.text⟩] :=
    renderedParts_append front last (.symbol symbol)
  constructor
  · rw [parts]
    exact List.append_ne_nil_of_right_ne_nil _ (List.cons_ne_nil _ _)
  · have someLexeme : front ++ [last] ≠ [] :=
      List.append_ne_nil_of_right_ne_nil _ (List.cons_ne_nil _ _)
    rw [Node.text_sentence someLexeme (fun lexeme member => by simp [(each lexeme member).1]), parts,
      phraseText, List.map_append, List.map_singleton, Language.Grammar.join_append, List.map_append,
      List.map_map]
    rfl
  · rw [parts]
    intro rendered member
    obtain inFront | isLast := List.mem_append.1 member
    · obtain ⟨lexeme, inside, rfl⟩ := List.mem_map.1 inFront
      exact (each lexeme (List.mem_append_left _ inside)).2
    · rw [List.mem_singleton.1 isLast]
      exact marked.1
  · rw [parts]
    simpa using marked.2

/-- The text of a rendered sentence is spaced words. -/
theorem IsRendered.isSpaced {sentence : Node} (rendered : IsRendered grammar sentence) :
    sentence.text.IsSpaced := by
  obtain ⟨first, others, parts⟩ := List.exists_cons_of_ne_nil rendered.nonempty
  rw [rendered.text_eq, phraseText, parts, List.map_cons]
  refine Text.IsSpaced.join fun token member => .last ?_
  rw [← List.map_cons, ← parts] at member
  obtain ⟨lexeme, inside, rfl⟩ := List.mem_map.1 member
  exact rendered.solid lexeme inside

/-- Tokens of which the last one ends in a terminator, and no other one does. -/
inductive IsPhrase (grammar : Grammar) : List RenderedLexeme → Prop
  | intro {front : List RenderedLexeme} {last : RenderedLexeme}
      (each : ∀ rendered ∈ front,
        rendered.token.IsSolid ∧ ¬ grammar.EndsInTerminator rendered.token)
      (solid : last.token.IsSolid) (ends : grammar.EndsInTerminator last.token) :
      IsPhrase grammar (front ++ [last])

/-- A phrase has a last token. -/
theorem IsPhrase.nonempty {phrase : List RenderedLexeme} (isPhrase : IsPhrase grammar phrase) :
    phrase ≠ [] := by
  cases isPhrase
  simp

/-- The text of a phrase is a phrase of the grammar. -/
theorem IsPhrase.isPhrase_text {phrase : List RenderedLexeme} (isPhrase : IsPhrase grammar phrase) :
    grammar.IsPhrase (phraseText phrase) := by
  cases isPhrase with
  | intro each solid ends =>
    rw [phraseText, List.map_append, List.map_singleton]
    exact Language.Grammar.isPhrase_join (List.forall_mem_map.2 each) solid ends

/-- The texts of phrases are joined like their tokens. -/
theorem join_map_phraseText {groups : List (List RenderedLexeme)}
    (nonempty : ∀ group ∈ groups, group ≠ []) :
    Text.join " " (groups.map phraseText) = phraseText groups.flatten := by
  have someToken : ∀ group ∈ groups.map (List.map RenderedLexeme.token), group ≠ [] := by
    simpa using nonempty
  rw [phraseText, List.map_flatten, ← Text.join_flatten someToken, List.map_map]
  rfl

section Paragraphs

variable {sentences : List Node}

/-- The phrases of a paragraph make its sentences. -/
theorem flatten_phrases :
    (phrases grammar (.paragraph sentences)).flatten = (sentences.map renderedLexemes).flatten := by
  rw [phrases, flatten_cutBehind, List.flatMap_def]

/-- The lexemes of a phrase stand in a sentence. -/
theorem exists_of_mem_phrases {phrase : List RenderedLexeme} {rendered : RenderedLexeme}
    (member : phrase ∈ phrases grammar (.paragraph sentences)) (inside : rendered ∈ phrase) :
    ∃ sentence ∈ sentences, rendered ∈ renderedLexemes sentence := by
  have inWhole := List.mem_flatten.2 ⟨phrase, member, inside⟩
  rw [flatten_phrases, ← List.flatMap_def] at inWhole
  exact List.mem_flatMap.1 inWhole

variable (each : ∀ sentence ∈ sentences, IsRendered grammar sentence)

include each

/-- A rendered paragraph is divided into phrases. -/
theorem isPhrase_of_mem_phrases {phrase : List RenderedLexeme}
    (member : phrase ∈ phrases grammar (.paragraph sentences)) : IsPhrase grammar phrase := by
  have isEnded : ∀ rendered ∈ (sentences.flatMap renderedLexemes).getLast?,
      grammar.EndsInTerminator rendered.token := by
    intro rendered final
    rw [Option.mem_def, List.getLast?_flatMap] at final
    obtain ⟨sentence, isSentence, inSentence⟩ := List.exists_of_findSome?_eq_some final
    exact (each sentence (List.mem_reverse.1 isSentence)).isEnded rendered inSentence
  have isSolid : ∀ rendered ∈ phrase, rendered.token.IsSolid := by
    intro rendered inside
    obtain ⟨sentence, isSentence, inSentence⟩ := exists_of_mem_phrases member inside
    exact (each sentence isSentence).solid rendered inSentence
  obtain ⟨front, last, rfl, goesOn, ends⟩ := exists_of_mem_cutBehind isEnded member
  exact .intro
    (fun rendered inside => ⟨isSolid rendered (List.mem_append_left _ inside), goesOn rendered inside⟩)
    (isSolid last (List.mem_append_right _ (List.mem_singleton_self last))) ends

/-- The sentences of a rendered paragraph are its phrases when they are joined. -/
theorem join_map_text_eq :
    Text.join " " (sentences.map Node.text) =
      Text.join " " ((phrases grammar (.paragraph sentences)).map phraseText) := by
  have texts : sentences.map Node.text = (sentences.map renderedLexemes).map phraseText := by
    rw [List.map_map]
    exact List.map_congr_left fun sentence member => (each sentence member).text_eq
  have someLexeme : ∀ group ∈ sentences.map renderedLexemes, group ≠ [] :=
    List.forall_mem_map.2 fun sentence member => (each sentence member).nonempty
  have somePart : ∀ phrase ∈ phrases grammar (.paragraph sentences), phrase ≠ [] :=
    fun phrase member => (isPhrase_of_mem_phrases each member).nonempty
  rw [texts, join_map_phraseText someLexeme, join_map_phraseText somePart, flatten_phrases]

/-- The phrases of a rendered paragraph are the sentence candidates of its body. -/
theorem sentenceCandidates_join_text (apart : grammar.SetsMarksApart) :
    grammar.sentenceCandidates (Text.join " " (sentences.map Node.text)) =
      (phrases grammar (.paragraph sentences)).map phraseText := by
  rw [join_map_text_eq each]
  exact Language.Grammar.sentenceCandidates_join_phrases apart (List.forall_mem_map.2
    fun phrase member => (isPhrase_of_mem_phrases each member).isPhrase_text)

/-- Where no token in front of a mark ends in a terminator, the phrases are the sentences. -/
theorem phrases_eq_map (goesOn : ∀ sentence ∈ sentences,
      ∀ rendered ∈ (renderedLexemes sentence).dropLast, ¬ grammar.EndsInTerminator rendered.token) :
    phrases grammar (.paragraph sentences) = sentences.map renderedLexemes := by
  rw [phrases]
  induction sentences with
  | nil => rfl
  | cons sentence sentences inductionHypothesis =>
    obtain ⟨first, others⟩ := List.forall_mem_cons.1 each
    obtain ⟨firstGoesOn, othersGoOn⟩ := List.forall_mem_cons.1 goesOn
    have whole := (List.dropLast_concat_getLast first.nonempty).symm
    have isEnd := first.isEnded _ (List.getLast?_eq_some_getLast first.nonempty)
    generalize (renderedLexemes sentence).getLast first.nonempty = last at whole isEnd
    generalize (renderedLexemes sentence).dropLast = front at whole firstGoesOn
    rw [List.flatMap_cons, List.map_cons, whole, List.append_assoc, List.singleton_append,
      cutBehind_append_cons firstGoesOn isEnd, inductionHypothesis others othersGoOn]

end Paragraphs

end ProseTree.Reading
