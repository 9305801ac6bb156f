import Mathlib.Data.List.TakeWhile
import ProseTree.Proofs.Language.LineGroups

/-!
# A blank line in front of the first paragraph

Where a blank line stays in front of the first group of lines, its carriage returns and its line feed are left
out as line ends, and any other character makes the candidate longer than the group. An empty line between
two texts keeps their groups apart.
-/

namespace ProseTree.Language

open ProseTree.Text (splitAtFeeds unspaced)

section FirstGroup

variable {line : Text}

/-- A line that is not blank is the first line of the first group. -/
theorem exists_lineGroups_of_solid (solid : isBlankLine line = false) (lines : List Text) :
    ∃ group groups, lineGroups (line :: lines) = (line :: group) :: groups := by
  obtain ⟨group, groups, split⟩ := List.exists_cons_of_ne_nil (List.splitOnP_ne_nil isBlankLine lines)
  refine ⟨group, groups.filter fun group => !group.isEmpty, ?_⟩
  rw [lineGroups, List.splitOnP_cons_eq_if_modifyHead, solid, split]
  simp

/-- A group whose first line is not blank has other characters than white space. -/
theorem unspaced_join_ne_nil (solid : isBlankLine line = false) (group : List Text) :
    unspaced (Text.join "\n" (line :: group)) ≠ [] := by
  cases group with
  | nil => simpa [Text.join] using unspaced_append_ne_nil solid []
  | cons second group =>
    rw [join_feed_cons (List.cons_ne_nil second group), List.append_assoc]
    exact unspaced_append_ne_nil solid _

/-- Carriage returns in front of a group are line ends, and are left out with them. -/
theorem groupText_cons_of_returns (returns : ∀ c ∈ line, c = '\r') {group : List Text}
    (nonempty : group ≠ []) : groupText (line :: group) = groupText group := by
  have ends : ∀ c ∈ line ++ ['\n'], (c == '\r' || c == '\n') = true := by
    refine List.forall_mem_append.2 ⟨fun c member => ?_, by simp⟩
    simp [returns c member]
  rw [groupText, join_feed_cons nonempty, trimPiece, List.dropWhile_append_of_pos ends]
  rfl

/-- Any other character in front of a group makes its text longer. -/
theorem length_groupText_lt (noFeed : '\n' ∉ line) {c : Char} (member : c ∈ line) (other : c ≠ '\r')
    {group : List Text} (solid : unspaced (Text.join "\n" group) ≠ []) :
    (groupText group).length < (groupText (line :: group)).length := by
  have nonempty : group ≠ [] := by
    rintro rfl
    exact solid rfl
  have something : Text.trimEnd (Text.join "\n" group) ≠ [] := by
    rwa [Ne, Text.trimEnd_eq_nil_iff, ← Text.unspaced_eq_nil_iff]
  let lineEnd : Char → Bool := fun c => c == '\r' || c == '\n'
  have kept : (line ++ ['\n']).dropWhile lineEnd ≠ [] := by
    rw [Ne, List.dropWhile_eq_nil_iff]
    intro ends
    have lineEnds := ends c (List.mem_append_left _ member)
    simp [lineEnd, other, ne_of_mem_of_not_mem member noFeed] at lineEnds
  have long : groupText (line :: group) =
      (line ++ ['\n']).dropWhile lineEnd ++ Text.trimEnd (Text.join "\n" group) := by
    rw [groupText, join_feed_cons nonempty, trimPiece_eq, Text.trimEnd_append, if_neg something,
      List.dropWhile_append, if_neg (by rwa [List.isEmpty_iff])]
  have short : groupText group = (Text.trimEnd (Text.join "\n" group)).dropWhile lineEnd :=
    trimPiece_eq _
  have shorter := List.length_dropWhile_le lineEnd (Text.trimEnd (Text.join "\n" group))
  have longer := List.length_pos_iff.2 kept
  rw [long, short, List.length_append]
  omega

end FirstGroup

section Apart

variable {left right : Text}

/-- An empty line keeps the lines in front of it and those behind it apart. -/
theorem candidateGroups_append {lines : List Text} (nonempty : lines ≠ []) (more : List Text) :
    candidateGroups (lines ++ [] :: more) = candidateGroups lines ++ lineGroups more := by
  have apart : ∀ before, lineGroups (before ++ [] :: more) = lineGroups before ++ lineGroups more :=
    fun before => lineGroups_append_cons rfl before more
  match lines with
  | [first] =>
    have empty : isBlankLine [] = true := rfl
    exact (candidateGroups_of_blank empty more).trans (apart [first])
  | first :: second :: rest =>
    rw [List.cons_append, List.cons_append]
    cases blank : isBlankLine first with
    | false =>
      rw [candidateGroups_of_solid blank, candidateGroups_of_solid blank]
      exact apart (first :: second :: rest)
    | true =>
      cases secondBlank : isBlankLine second with
      | true =>
        rw [candidateGroups_of_blank secondBlank, candidateGroups_of_blank secondBlank]
        exact apart (first :: second :: rest)
      | false =>
        obtain ⟨group, groups, starts⟩ := exists_lineGroups_of_solid secondBlank rest
        have whole := apart (second :: rest)
        rw [List.cons_append] at whole
        rw [candidateGroups_of_blank_solid blank secondBlank, candidateGroups_of_blank_solid blank secondBlank,
          whole, starts]
        rfl

/-- An empty line keeps the candidates of two texts apart, as long as the second one does not start with
a blank line. -/
theorem paragraphCandidates_append (left : Text) (missing : afterBlankLines? right = none) :
    paragraphCandidates (left ++ '\n' :: '\n' :: right) =
      paragraphCandidates left ++ paragraphCandidates right := by
  have lines : splitAtFeeds (left ++ '\n' :: '\n' :: right) =
      splitAtFeeds left ++ [] :: splitAtFeeds right := by
    rw [Text.splitAtFeeds_append]
    exact congrArg _ (Text.splitAtFeeds_line_append (List.not_mem_nil) right)
  have nonempty : splitAtFeeds left ≠ [] := Text.splitWhere_ne_nil _ left
  have behind := (divided_of_isOnLines (Text.isOnLines right)).2
  rw [missing, Option.getD_none] at behind
  rw [behind, paragraphCandidates_eq_map, paragraphCandidates_eq_map left, lines,
    candidateGroups_append nonempty, List.map_append]

end Apart

section Kept

/-- Whether the first line is blank, stands directly in front of a line that is not blank, and is not
only carriage returns. -/
def KeepsBlankLine : List Text → Prop
  | first :: second :: _ =>
    isBlankLine first = true ∧ isBlankLine second = false ∧ ∃ c ∈ first, c ≠ '\r'
  | _ => False

/-- Where the first line is not kept, the candidates are the groups of lines. -/
theorem map_candidateGroups_of_not_keeps {lines : List Text} (keepsNot : ¬ KeepsBlankLine lines) :
    (candidateGroups lines).map groupText = (lineGroups lines).map groupText := by
  match lines with
  | [] => rfl
  | [_] => rfl
  | first :: second :: rest =>
    cases blank : isBlankLine first with
    | false => rw [candidateGroups_of_solid blank]
    | true =>
      cases secondBlank : isBlankLine second with
      | true => rw [candidateGroups_of_blank secondBlank]
      | false =>
        have returns : ∀ c ∈ first, c = '\r' := by
          simpa [KeepsBlankLine, blank, secondBlank] using keepsNot
        obtain ⟨group, groups, starts⟩ := exists_lineGroups_of_solid secondBlank rest
        rw [candidateGroups_of_blank_solid blank secondBlank, lineGroups_blank_cons blank, starts,
          List.modifyHead_cons, List.map_cons, List.map_cons,
          groupText_cons_of_returns returns (List.cons_ne_nil second group)]

/-- Where the first line is kept, the first candidate is longer than the first group. -/
theorem map_candidateGroups_ne_of_keeps {lines : List Text} (noFeed : ∀ line ∈ lines, '\n' ∉ line)
    (keeps : KeepsBlankLine lines) :
    (candidateGroups lines).map groupText ≠ (lineGroups lines).map groupText := by
  match lines with
  | first :: second :: rest =>
    obtain ⟨blank, solid, c, member, other⟩ := keeps
    obtain ⟨group, groups, starts⟩ := exists_lineGroups_of_solid solid rest
    have longer := length_groupText_lt (noFeed first List.mem_cons_self) member other
      (unspaced_join_ne_nil solid group)
    rw [candidateGroups_of_blank_solid blank solid, lineGroups_blank_cons blank, starts,
      List.modifyHead_cons, List.map_cons, List.map_cons]
    intro same
    rw [(List.cons.inj same).1] at longer
    exact Nat.lt_irrefl _ longer

/-- The candidates are the groups of lines where the first line is not kept, and nowhere else. -/
theorem paragraphCandidates_eq_iff (text : Text) :
    paragraphCandidates text = (lineGroups (splitAtFeeds text)).map groupText ↔
      ¬ KeepsBlankLine (splitAtFeeds text) := by
  rw [paragraphCandidates_eq_map]
  constructor
  · intro same keeps
    exact map_candidateGroups_ne_of_keeps (fun _ => Text.noFeed_of_mem_splitAtFeeds) keeps same
  · exact map_candidateGroups_of_not_keeps

/-- A line is kept in front of one that is not. -/
theorem not_keepsBlankLine_of_cons {line : Text} {lines : List Text}
    (keeps : KeepsBlankLine (line :: lines)) : ¬ KeepsBlankLine lines := by
  match lines with
  | [] => exact id
  | [_] => exact id
  | first :: second :: rest =>
    rintro ⟨blank, -, -⟩
    obtain ⟨-, solid, -⟩ := keeps
    rw [blank] at solid
    cases solid

/-- The paragraph candidates of a text are made of its lines: of each group of consecutive lines that are
not blank, and of a blank first line where the first group stands directly behind it. They are exactly
the groups of lines unless such a line is not only carriage returns, and a blank line in front of a text
changes none of its candidates exactly when neither text keeps its first line. -/
theorem paragraphCandidates_follow_lines (text : Text) :
    paragraphCandidates text = (candidateGroups (splitAtFeeds text)).map groupText ∧
      (paragraphCandidates text = (lineGroups (splitAtFeeds text)).map groupText ↔
        ¬ KeepsBlankLine (splitAtFeeds text)) ∧
      ∀ line, '\n' ∉ line → isBlankLine line = true →
        (paragraphCandidates (line ++ '\n' :: text) = paragraphCandidates text ↔
          ¬ KeepsBlankLine (line :: splitAtFeeds text) ∧ ¬ KeepsBlankLine (splitAtFeeds text)) := by
  refine ⟨paragraphCandidates_eq_map text, paragraphCandidates_eq_iff text, ?_⟩
  intro line noFeed blank
  have here := paragraphCandidates_eq_iff text
  have behind := paragraphCandidates_eq_iff (line ++ '\n' :: text)
  rw [Text.splitAtFeeds_line_append noFeed, lineGroups_blank_cons blank] at behind
  constructor
  · intro same
    rw [same, here] at behind
    by_cases keeps : KeepsBlankLine (splitAtFeeds text)
    · exact absurd keeps (behind.2 fun kept => not_keepsBlankLine_of_cons kept keeps)
    · exact ⟨behind.1 keeps, keeps⟩
  · rintro ⟨keepsNot, keepsNotBehind⟩
    rw [behind.2 keepsNot, here.2 keepsNotBehind]

/-- A line of one space in front of a text changes its first candidate. -/
theorem paragraphCandidates_follow_lines_space :
    '\n' ∉ " ".toList ∧ isBlankLine " ".toList = true ∧
      paragraphCandidates (" ".toList ++ '\n' :: "\tOne.".toList) ≠ paragraphCandidates "\tOne.".toList := by
  have noFeed : '\n' ∉ " ".toList := by decide
  have blank : isBlankLine " ".toList = true := by decide
  have unchanged := (paragraphCandidates_follow_lines "\tOne.".toList).2.2 " ".toList noFeed blank
  exact ⟨noFeed, blank, fun same =>
    (unchanged.1 same).1 ⟨blank, by decide, ' ', List.mem_singleton_self _, by decide⟩⟩

/-- The space and its line feed stay in front of the indent, while the only group of lines is the
indented line, which is the candidate of the text without the blank line. -/
theorem paragraphCandidates_keep_space :
    paragraphCandidates " \n\tOne.".toList = [" \n\tOne.".toList] ∧
      (lineGroups (splitAtFeeds " \n\tOne.".toList)).map groupText = ["\tOne.".toList] ∧
      paragraphCandidates "\tOne.".toList = ["\tOne.".toList] := by
  rw [paragraphCandidates_eq_map, paragraphCandidates_eq_map]
  decide

end Kept

end ProseTree.Language
