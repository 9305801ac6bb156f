import ProseTree.Proofs.Language.ParagraphBreaks

/-!
# Paragraph candidates and lines

The paragraph candidates of a text are its groups of consecutive lines that are not blank. The one exception
is a text whose first line is blank and whose second line is not: there is only one line feed between
them, so that the blank line stays in front of the first group.
-/

namespace ProseTree.Language

open ProseTree.Text (IsOnLines splitAtFeeds unspaced)

/-- The groups of consecutive lines that are not blank, each as long as it can be. -/
def lineGroups (lines : List Text) : List (List Text) :=
  (lines.splitOnP isBlankLine).filter fun group => !group.isEmpty

/-- The text of a group: its lines joined by line feeds, without line ends before it and white space
after it. -/
def groupText (group : List Text) : Text :=
  trimPiece (Text.join "\n" group)

section Groups

variable {line : Text}

/-- A blank line stands between two groups, and belongs to none. -/
theorem lineGroups_append_cons (blank : isBlankLine line = true) (before after : List Text) :
    lineGroups (before ++ line :: after) = lineGroups before ++ lineGroups after := by
  rw [lineGroups, List.splitOnP_append_cons before after blank, List.filter_append]
  rfl

/-- A blank line at the start belongs to no group. -/
theorem lineGroups_blank_cons (blank : isBlankLine line = true) (lines : List Text) :
    lineGroups (line :: lines) = lineGroups lines :=
  lineGroups_append_cons blank [] lines

/-- The lines of a group are joined one after the other. -/
theorem join_feed_cons {group : List Text} (nonempty : group ≠ []) (line : Text) :
    Text.join "\n" (line :: group) = line ++ ['\n'] ++ Text.join "\n" group := by
  rw [Text.join_cons nonempty, List.append_assoc]
  rfl

end Groups

section Candidates

/-- The first piece of the text is its first group of lines, and the candidates in the other pieces are
the other groups. -/
inductive StartsWithGroup (text : Text) : Prop
  | intro {piece : Text} {pieces : List Text} {group : List Text} {groups : List (List Text)}
      (cut : cutAtParagraphBreaks text = piece :: pieces)
      (split : (splitAtFeeds text).splitOnP isBlankLine = group :: groups)
      (same : Text.trimEnd piece = Text.trimEnd (Text.join "\n" group)) (nonempty : group ≠ [])
      (solid : unspaced piece ≠ [])
      (others : candidatesOf pieces = (groups.filter fun group => !group.isEmpty).map groupText)

/-- A text that starts with a group of lines is divided into its groups. -/
theorem StartsWithGroup.paragraphCandidates_eq {text : Text} (starts : StartsWithGroup text) :
    paragraphCandidates text = (lineGroups (splitAtFeeds text)).map groupText := by
  cases starts with
  | intro cut split same nonempty solid others =>
    rw [paragraphCandidates_eq_candidatesOf, cut, candidatesOf_cons_of_solid solid, others, lineGroups,
      split, trimPiece_congr same]
    simp [nonempty, groupText]

/-- A text of nothing but white space has no candidates. -/
theorem paragraphCandidates_of_blank {text : Text} (blank : isBlankLine text = true) :
    paragraphCandidates text = [] := by
  have nothing := flatMap_unspaced_paragraphCandidates text
  rw [Text.unspaced_eq_nil_iff.2 (isBlankLine_iff.1 blank), List.flatMap_eq_nil_iff] at nothing
  rw [List.eq_nil_iff_forall_not_mem]
  intro candidate member
  have solid := (List.mem_filter.1 member).2
  rw [Text.trim_eq_nil_iff.2 (nothing candidate member)] at solid
  cases solid

variable {line rest : Text}

/-- A text with a solid line is not all white space. -/
theorem unspaced_append_ne_nil (solid : isBlankLine line = false) (rest : Text) :
    unspaced (line ++ rest) ≠ [] := by
  intro nothing
  obtain ⟨c, member, notBlank⟩ := exists_solid_of_not_blank solid
  rw [Text.unspaced_eq_nil_iff.1 nothing c (List.mem_append_left rest member)] at notBlank
  cases notBlank

section Lines

variable (noFeed : '\n' ∉ line) (solid : isBlankLine line = false)

include noFeed solid

/-- A last line that is not blank is the only group. -/
theorem startsWithGroup_of_noFeed : StartsWithGroup line := by
  have split : (splitAtFeeds line).splitOnP isBlankLine = [[line]] := by
    rw [Text.splitAtFeeds_of_noFeed noFeed, List.splitOnP_cons_eq_if_modifyHead, solid]
    simp
  have something := unspaced_append_ne_nil solid []
  rw [List.append_nil] at something
  exact .intro (cutAtParagraphBreaks_of_noFeed noFeed) split rfl (by simp) something rfl

/-- A line is in front of the group that starts behind it. -/
theorem StartsWithGroup.line_append (missing : afterBlankLines? rest = none)
    (starts : StartsWithGroup rest) : StartsWithGroup (line ++ '\n' :: rest) := by
  cases starts with
  | @intro piece pieces group groups cut split same nonempty _ others =>
    have whole := unspaced_append_ne_nil solid ('\n' :: piece)
    refine @StartsWithGroup.intro _ _ _ (line :: group) _
      (cutAtParagraphBreaks_line_append noFeed missing cut) ?_ ?_ (by simp) whole others
    · rw [Text.splitAtFeeds_line_append noFeed, List.splitOnP_cons_eq_if_modifyHead, solid, split]
      rfl
    · rw [join_feed_cons nonempty, ← Text.trimEnd_append_congr same]
      simp

/-- In front of a blank line a group ends. -/
theorem startsWithGroup_of_blank {blank : Text} {lines : List Text} {piece : Text} {pieces : List Text}
    (behind : splitAtFeeds rest = blank :: lines) (isBlank : isBlankLine blank = true)
    (cut : cutAtParagraphBreaks (line ++ '\n' :: rest) = piece :: pieces)
    (same : Text.trimEnd piece = Text.trimEnd line)
    (others : candidatesOf pieces = (lineGroups (splitAtFeeds rest)).map groupText) :
    StartsWithGroup (line ++ '\n' :: rest) := by
  have something : unspaced piece ≠ [] := by
    rw [← Text.unspaced_trimEnd, same, Text.unspaced_trimEnd]
    simpa using unspaced_append_ne_nil solid []
  rw [behind, lineGroups_blank_cons isBlank] at others
  refine @StartsWithGroup.intro _ _ _ [line] _ cut ?_ same (by simp) something others
  rw [Text.splitAtFeeds_line_append noFeed, behind, List.splitOnP_cons_eq_if_modifyHead, solid,
    List.splitOnP_cons_eq_if_modifyHead, isBlank]
  simp

end Lines

/-- White space at the end of a text is no line of a group. -/
theorem startsWithGroup_of_blank_last (noFeed : '\n' ∉ line) (solid : isBlankLine line = false)
    (lastLine : '\n' ∉ rest) (blank : isBlankLine rest = true) :
    StartsWithGroup (line ++ '\n' :: rest) := by
  have behind := Text.splitAtFeeds_of_noFeed lastLine
  have cut := cutAtParagraphBreaks_line_append noFeed (afterBlankLines?_of_noFeed lastLine)
    (cutAtParagraphBreaks_of_noFeed lastLine)
  have allBlank : ∀ c ∈ '\n' :: rest, Text.isBlank c = true :=
    List.forall_mem_cons.2 ⟨by decide, isBlankLine_iff.1 blank⟩
  refine startsWithGroup_of_blank noFeed solid behind blank cut (Text.trimEnd_append_blank allBlank line) ?_
  rw [behind, lineGroups_blank_cons blank]
  rfl

/-- A line that is not blank starts a group, which ends in front of a blank line or goes on with the group
that starts behind the line. -/
theorem startsWithGroup_line_append (noFeed : '\n' ∉ line) (solid : isBlankLine line = false)
    (following : IsOnLines rest)
    (starts : (∀ line ∈ (splitAtFeeds rest).head?, isBlankLine line = false) → StartsWithGroup rest)
    (divided : paragraphCandidates ((afterBlankLines? rest).getD rest) =
      (lineGroups (splitAtFeeds rest)).map groupText) : StartsWithGroup (line ++ '\n' :: rest) := by
  cases found : afterBlankLines? rest with
  | some after =>
    obtain ⟨piece, cut, same⟩ := exists_cutAtParagraphBreaks_line_append noFeed found
    obtain ⟨blank, others, rfl, noFeedInBlank, isBlank⟩ := exists_blank_of_afterBlankLines? found
    rw [found, Option.getD_some] at divided
    exact startsWithGroup_of_blank noFeed solid (Text.splitAtFeeds_line_append noFeedInBlank others)
      isBlank cut same divided
  | none =>
    cases following with
    | last lastLine =>
      cases blank : isBlankLine rest with
      | true => exact startsWithGroup_of_blank_last noFeed solid lastLine blank
      | false =>
        refine (starts ?_).line_append noFeed solid found
        simpa [Text.splitAtFeeds_of_noFeed lastLine] using blank
    | @cons second others noFeedInSecond _ =>
      have goesOn := isBlankLine_eq_false_of_missing found
      refine (starts ?_).line_append noFeed solid found
      simpa [Text.splitAtFeeds_line_append noFeedInSecond] using goesOn

/-- Behind its blank lines a text is divided into its groups of lines, and a text whose first line is not
blank starts with one. -/
theorem divided_of_isOnLines {text : Text} (onLines : IsOnLines text) :
    ((∀ line ∈ (splitAtFeeds text).head?, isBlankLine line = false) → StartsWithGroup text) ∧
      paragraphCandidates ((afterBlankLines? text).getD text) =
        (lineGroups (splitAtFeeds text)).map groupText := by
  induction onLines with
  | @last line noFeed =>
    have starts : isBlankLine line = false → StartsWithGroup line := startsWithGroup_of_noFeed noFeed
    rw [afterBlankLines?_of_noFeed noFeed, Option.getD_none]
    constructor
    · simpa [Text.splitAtFeeds_of_noFeed noFeed] using starts
    · cases blank : isBlankLine line with
      | true =>
        rw [paragraphCandidates_of_blank blank, Text.splitAtFeeds_of_noFeed noFeed,
          lineGroups_blank_cons blank]
        rfl
      | false => exact (starts blank).paragraphCandidates_eq
  | @cons line rest noFeed following inductionHypothesis =>
    obtain ⟨startsBehind, dividedBehind⟩ := inductionHypothesis
    have starts : isBlankLine line = false → StartsWithGroup (line ++ '\n' :: rest) :=
      fun solid => startsWithGroup_line_append noFeed solid following startsBehind dividedBehind
    constructor
    · simpa [Text.splitAtFeeds_line_append noFeed] using starts
    · cases blank : isBlankLine line with
      | true =>
        rw [afterBlankLines?_blank_append blank, Option.getD_some, dividedBehind,
          Text.splitAtFeeds_line_append noFeed, lineGroups_blank_cons blank]
      | false =>
        rw [afterBlankLines?_append_of_solid noFeed blank, Option.getD_none]
        exact (starts blank).paragraphCandidates_eq

/-- A blank line in front of a text that starts with a group of lines stays in front of this group. -/
theorem StartsWithGroup.blank_append (starts : StartsWithGroup rest) (noFeed : '\n' ∉ line)
    (missing : afterBlankLines? rest = none) :
    paragraphCandidates (line ++ '\n' :: rest) =
      ((lineGroups (splitAtFeeds rest)).modifyHead (line :: ·)).map groupText := by
  cases starts with
  | @intro piece pieces group groups cut split same nonempty solid others =>
    have something : unspaced (line ++ '\n' :: piece) ≠ [] := by
      rw [← List.singleton_append, Text.unspaced_append, Text.unspaced_append]
      simp [solid]
    have samePiece : trimPiece (line ++ '\n' :: piece) = groupText (line :: group) := by
      rw [groupText, join_feed_cons nonempty]
      refine trimPiece_congr ?_
      rw [← Text.trimEnd_append_congr same, List.append_assoc, List.singleton_append]
    rw [paragraphCandidates_eq_candidatesOf, cutAtParagraphBreaks_line_append noFeed missing cut,
      candidatesOf_cons_of_solid something, others, samePiece, lineGroups, split]
    simp [nonempty]

/-- The lines that the candidates are made of: the groups of lines, with a first line that is blank kept
in front of the first group where this stands directly behind it. -/
def candidateGroups : List Text → List (List Text)
  | first :: second :: rest =>
    if isBlankLine first ∧ ¬ isBlankLine second then
      (lineGroups (second :: rest)).modifyHead (first :: ·)
    else lineGroups (first :: second :: rest)
  | lines => lineGroups lines

/-- Where the first line is not blank, no line is kept but those of the groups. -/
theorem candidateGroups_of_solid (solid : isBlankLine line = false) (lines : List Text) :
    candidateGroups (line :: lines) = lineGroups (line :: lines) := by
  cases lines with
  | nil => rfl
  | cons second lines => simp [candidateGroups, solid]

/-- Where the second line is blank, no line is kept but those of the groups. -/
theorem candidateGroups_of_blank {second : Text} (blank : isBlankLine second = true)
    (lines : List Text) : candidateGroups (line :: second :: lines) = lineGroups (line :: second :: lines) := by
  simp [candidateGroups, blank]

/-- A blank line directly in front of a line that is not blank is kept in front of its group. -/
theorem candidateGroups_of_blank_solid {second : Text} (blank : isBlankLine line = true)
    (solid : isBlankLine second = false) (lines : List Text) :
    candidateGroups (line :: second :: lines) = (lineGroups (second :: lines)).modifyHead (line :: ·) := by
  simp [candidateGroups, blank, solid]

/-- Two blank lines at the start of a text are in no candidate. -/
theorem paragraphCandidates_blank_append (noFeed : '\n' ∉ line) (blank : isBlankLine line = true)
    {second : Text} (secondBlank : isBlankLine second = true) (others : Text) :
    paragraphCandidates (line ++ '\n' :: (second ++ '\n' :: others)) =
      (lineGroups (splitAtFeeds (second ++ '\n' :: others))).map groupText := by
  have found := afterBlankLines?_blank_append secondBlank others
  have divided := (divided_of_isOnLines (Text.isOnLines (second ++ '\n' :: others))).2
  obtain ⟨piece, cut, same⟩ := exists_cutAtParagraphBreaks_line_append noFeed found
  have nothing : unspaced piece = [] := by
    rw [← Text.unspaced_trimEnd, same, Text.unspaced_trimEnd]
    exact Text.unspaced_eq_nil_iff.2 (isBlankLine_iff.1 blank)
  rw [found, Option.getD_some] at divided
  rw [paragraphCandidates_eq_candidatesOf, cut, candidatesOf_cons_of_blank nothing]
  exact divided

/-- The candidates of a text whose first line is blank: the line is left out with the blank lines behind it,
or it stays in front of the first group. -/
theorem paragraphCandidates_of_blank_first (noFeed : '\n' ∉ line) (blank : isBlankLine line = true)
    (following : IsOnLines rest) :
    paragraphCandidates (line ++ '\n' :: rest) =
      (candidateGroups (line :: splitAtFeeds rest)).map groupText := by
  have starts := (divided_of_isOnLines following).1
  cases following with
  | last lastLine =>
    rw [Text.splitAtFeeds_of_noFeed lastLine] at starts ⊢
    cases second : isBlankLine rest with
    | true =>
      have allBlank : isBlankLine (line ++ '\n' :: rest) = true :=
        isBlankLine_iff.2 (List.forall_mem_append.2
          ⟨isBlankLine_iff.1 blank, List.forall_mem_cons.2 ⟨by decide, isBlankLine_iff.1 second⟩⟩)
      rw [paragraphCandidates_of_blank allBlank, candidateGroups_of_blank second,
        lineGroups_blank_cons blank, lineGroups_blank_cons second]
      rfl
    | false =>
      have startsBehind := starts (by simpa using second)
      rw [startsBehind.blank_append noFeed (afterBlankLines?_of_noFeed lastLine),
        candidateGroups_of_blank_solid blank second, Text.splitAtFeeds_of_noFeed lastLine]
  | @cons second others noFeedInSecond _ =>
    cases secondBlank : isBlankLine second with
    | true =>
      rw [paragraphCandidates_blank_append noFeed blank secondBlank,
        Text.splitAtFeeds_line_append noFeedInSecond, candidateGroups_of_blank secondBlank,
        lineGroups_blank_cons blank]
    | false =>
      rw [Text.splitAtFeeds_line_append noFeedInSecond] at starts ⊢
      have startsBehind := starts (by simpa using secondBlank)
      have missing := afterBlankLines?_append_of_solid noFeedInSecond secondBlank ('\n' :: others)
      rw [startsBehind.blank_append noFeed missing, candidateGroups_of_blank_solid blank secondBlank,
        Text.splitAtFeeds_line_append noFeedInSecond]

/-- The paragraph candidates of a text are made of its lines. -/
theorem paragraphCandidates_eq_map (text : Text) :
    paragraphCandidates text = (candidateGroups (splitAtFeeds text)).map groupText := by
  have onLines := Text.isOnLines text
  obtain ⟨starts, divided⟩ := divided_of_isOnLines onLines
  cases onLines with
  | @last line noFeed =>
    rw [afterBlankLines?_of_noFeed noFeed, Option.getD_none] at divided
    rw [divided, Text.splitAtFeeds_of_noFeed noFeed]
    rfl
  | @cons line rest noFeed following =>
    cases blank : isBlankLine line with
    | true =>
      rw [Text.splitAtFeeds_line_append noFeed]
      exact paragraphCandidates_of_blank_first noFeed blank following
    | false =>
      rw [Text.splitAtFeeds_line_append noFeed] at starts
      rw [(starts (by simpa using blank)).paragraphCandidates_eq, Text.splitAtFeeds_line_append noFeed,
        candidateGroups_of_solid blank]

end Candidates

end ProseTree.Language
