import ProseTree.Proofs.Language.BuiltIn
import ProseTree.Proofs.Language.FirstLine
import ProseTree.Proofs.Reading.Outcomes

/-!
# Reading texts one after the other

Candidates are read without regard to each other. An empty line between two texts divides the candidates
of the first one from those of the second one, unless the second one starts with a blank line, which may
be kept in front of its first candidate. So the reading of the whole is the two readings one after the
other, and where the first one is broken off, so is the whole, for the same cause.
-/

namespace ProseTree.Reading

open ProseTree.Language (BuiltIn ClassTables Configuration Grammar)

/-- A reading with the paragraphs and the gaps of another one behind its own. -/
def followedBy (first second : Reading) : Reading :=
  ⟨⟨first.document.children ++ second.document.children⟩, first.gaps ++ second.gaps⟩

/-- Collecting from the texts of two lists is collecting from one after the other. -/
theorem collect_append {α : Type} (readOne : Text → Except ParseError (List α × List Gap))
    (before after : List Text) :
    collect readOne (before ++ after) = do
      let (nodes, gaps) ← collect readOne before
      let (moreNodes, moreGaps) ← collect readOne after
      return (nodes ++ moreNodes, gaps ++ moreGaps) := by
  induction before with
  | nil =>
    change collect readOne after = collect readOne after >>= pure
    rw [bind_pure]
  | cons text texts inductionHypothesis =>
    rw [List.cons_append, collect, collect]
    cases readOne text with
    | error cause => rfl
    | ok placed =>
      obtain ⟨nodes, gaps⟩ := placed
      simp only [inductionHypothesis]
      cases collect readOne texts with
      | error cause => rfl
      | ok first =>
        cases collect readOne after with
        | error cause => rfl
        | ok second => simp [Except.map, bind, Except.bind, pure, Except.pure]

/-- A text, an empty line and a text that does not start with a blank line are read like the two texts,
each with a schedule of its own. For an accepted grammar with plain letters all three readings succeed. -/
theorem readDocument_append [ClassTables] (grammar : Grammar) (schedule before after : Schedule)
    (left : Text) {right : Text} (sameLine : '\n' ∉ right.takeWhile Text.isBlank) :
    ((standardChain grammar schedule).readDocument (left ++ '\n' :: '\n' :: right) = do
      let first ← (standardChain grammar before).readDocument left
      let second ← (standardChain grammar after).readDocument right
      return first.followedBy second) ∧
    ∀ configuration, Grammar.ofConfiguration configuration = .ok grammar → configuration.HasPlainLetters →
      ∃ first second, (standardChain grammar before).readDocument left = .ok first ∧
        (standardChain grammar after).readDocument right = .ok second ∧
        (standardChain grammar schedule).readDocument (left ++ '\n' :: '\n' :: right) =
          .ok (first.followedBy second) := by
  have missing : Language.afterBlankLines? right = none := by
    simp [Language.afterBlankLines?, sameLine]
  have whole : (standardChain grammar schedule).readDocument (left ++ '\n' :: '\n' :: right) = (do
      let first ← (standardChain grammar before).readDocument left
      let second ← (standardChain grammar after).readDocument right
      return first.followedBy second) := by
    simp only [readDocument_eq_collect, Language.paragraphCandidates_append left missing, collect_append]
    cases collect _ (Language.paragraphCandidates left) with
    | error cause => rfl
    | ok first => cases collect _ (Language.paragraphCandidates right) <;> rfl
  refine ⟨whole, fun configuration accepted plain => ?_⟩
  obtain ⟨letters, wordLetters, classes⟩ := Grammar.exists_classes accepted plain
  obtain ⟨_, _, readLeft, -⟩ := exists_readDocument classes before left
  obtain ⟨_, _, readRight, -⟩ := exists_readDocument classes after right
  rw [readLeft, readRight] at whole
  exact ⟨_, _, readLeft, readRight, whole⟩

/-- An English text that ends with a line of white space, and an indented line behind it. -/
theorem readDocument_append_english :
    ∃ grammar first second, Grammar.ofConfiguration .english = .ok grammar ∧
      '\n' ∉ "    Two.".toList.takeWhile Text.isBlank ∧
      (standardChain grammar .sequential).readDocument "\tOne.\r\n \r" = .ok first ∧
      (standardChain grammar .sequential).readDocument "    Two." = .ok second ∧
      (standardChain grammar {}).readDocument "\tOne.\r\n \r\n\n    Two." = .ok (first.followedBy second) := by
  obtain ⟨grammar, accepted⟩ := BuiltIn.english.exists_ofConfiguration
  have sameLine : '\n' ∉ "    Two.".toList.takeWhile Text.isBlank := by decide
  obtain ⟨-, succeeds⟩ := readDocument_append grammar {} .sequential .sequential "\tOne.\r\n \r" sameLine
  obtain ⟨first, second, readFirst, readSecond, whole⟩ :=
    succeeds _ accepted BuiltIn.english.hasPlainLetters
  exact ⟨grammar, first, second, accepted, sameLine, readFirst, readSecond, whole⟩

end ProseTree.Reading
