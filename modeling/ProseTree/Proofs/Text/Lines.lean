import ProseTree.Proofs.Text.Tokens

/-!
# Lines

The line feeds of a text cut it into lines, of which the last one has no line feed behind it. A text is
either one line, or a line, its line feed and the lines behind it; `IsOnLines` follows a text in this way.
What stands behind the last character that is no white space does not matter to the end of a text. Texts
whose only white space are spaces stand on one line each, so they are found again with empty lines between
them.
-/

namespace ProseTree.Text

/-- Cutting a text is splitting the list of its characters. -/
theorem splitWhere_eq_splitOnP (cut : Char → Bool) (text : Text) :
    splitWhere cut text = text.splitOnP cut := by
  induction text with
  | nil => simp [splitWhere]
  | cons c rest inductionHypothesis =>
    rw [List.splitOnP_cons_eq_if_modifyHead, ← inductionHypothesis]
    cases isCut : cut c with
    | true => simpa using splitWhere_cons_of_pos isCut rest
    | false =>
      obtain ⟨piece, pieces, split⟩ := List.exists_cons_of_ne_nil (splitWhere_ne_nil cut rest)
      simp [splitWhere_cons_of_neg isCut split, split]

/-- The lines of a text, which are what stands between its line feeds. -/
def splitAtFeeds (text : Text) : List Text :=
  splitWhere (· == '\n') text

/-- The lines in front of a line feed and those behind it are the lines of the whole. -/
theorem splitAtFeeds_append (left right : Text) :
    splitAtFeeds (left ++ '\n' :: right) = splitAtFeeds left ++ splitAtFeeds right := by
  simp only [splitAtFeeds, splitWhere_eq_splitOnP]
  exact List.splitOnP_append_cons left right rfl

/-- A text without a line feed is one line. -/
theorem splitAtFeeds_of_noFeed {line : Text} (noFeed : '\n' ∉ line) : splitAtFeeds line = [line] := by
  apply splitWhere_of_none
  intro c member
  simpa using ne_of_mem_of_not_mem member noFeed

/-- A text is its first line, a line feed and its other lines. -/
theorem splitAtFeeds_line_append {line : Text} (noFeed : '\n' ∉ line) (rest : Text) :
    splitAtFeeds (line ++ '\n' :: rest) = line :: splitAtFeeds rest := by
  rw [splitAtFeeds_append, splitAtFeeds_of_noFeed noFeed, List.singleton_append]

/-- Lines of output are the lines of each of them, and those of what follows. -/
theorem splitAtFeeds_flatMap_line (lines : List Text) (rest : Text) :
    splitAtFeeds (lines.flatMap line ++ rest) = lines.flatMap splitAtFeeds ++ splitAtFeeds rest := by
  induction lines with
  | nil => rfl
  | cons first lines inductionHypothesis =>
    rw [List.flatMap_cons, List.flatMap_cons, line, List.append_assoc, List.append_assoc,
      List.singleton_append, splitAtFeeds_append, inductionHypothesis, List.append_assoc]

/-- Texts without line feeds are the lines of each of them. -/
theorem flatMap_splitAtFeeds_of_noFeed {lines : List Text} (noFeed : ∀ line ∈ lines, '\n' ∉ line) :
    lines.flatMap splitAtFeeds = lines := by
  induction lines with
  | nil => rfl
  | cons first lines inductionHypothesis =>
    obtain ⟨here, others⟩ := List.forall_mem_cons.1 noFeed
    rw [List.flatMap_cons, splitAtFeeds_of_noFeed here, inductionHypothesis others, List.singleton_append]

/-- A text, followed line by line. -/
inductive IsOnLines : Text → Prop
  | last {line : Text} (noFeed : '\n' ∉ line) : IsOnLines line
  | cons {line rest : Text} (noFeed : '\n' ∉ line) (following : IsOnLines rest) :
      IsOnLines (line ++ '\n' :: rest)

/-- Every text can be followed line by line. -/
theorem isOnLines (text : Text) : IsOnLines text := by
  induction text with
  | nil => exact .last (by simp)
  | cons c rest inductionHypothesis =>
    by_cases isFeed : c = '\n'
    · rw [isFeed, ← List.nil_append ('\n' :: rest)]
      exact .cons (by simp) inductionHypothesis
    · have other : '\n' ≠ c := fun same => isFeed same.symm
      cases inductionHypothesis with
      | last noFeed => exact .last (by simp [noFeed, other])
      | cons noFeed following =>
        rw [← List.cons_append]
        exact .cons (by simp [noFeed, other]) following

/-- No line has a line feed. -/
theorem noFeed_of_mem_splitAtFeeds {text line : Text} (member : line ∈ splitAtFeeds text) :
    '\n' ∉ line := by
  have onLines := isOnLines text
  induction onLines with
  | last noFeed =>
    rw [splitAtFeeds_of_noFeed noFeed, List.mem_singleton] at member
    rwa [member]
  | cons noFeed _ inductionHypothesis =>
    rw [splitAtFeeds_line_append noFeed] at member
    obtain rfl | inOthers := List.mem_cons.1 member
    · exact noFeed
    · exact inductionHypothesis inOthers

/-- A text without any white space but spaces. -/
def HasOnlySpaces (text : Text) : Prop :=
  ∀ c ∈ text, isBlank c = true → c = ' '

namespace HasOnlySpaces

variable {text more : Text}

/-- A text without white space has none but spaces. -/
theorem of_noBlank (noBlank : ∀ c ∈ text, isBlank c = false) : text.HasOnlySpaces := by
  intro c member blank
  rw [noBlank c member] at blank
  cases blank

/-- Two such texts make one. -/
theorem append (left : text.HasOnlySpaces) (right : more.HasOnlySpaces) : HasOnlySpaces (text ++ more) :=
  List.forall_mem_append.2 ⟨left, right⟩

/-- Such texts with spaces between them make one. -/
theorem join {texts : List Text} (each : ∀ text ∈ texts, HasOnlySpaces text) :
    HasOnlySpaces (Text.join " " texts) := by
  have space : HasOnlySpaces " " := by simp [HasOnlySpaces]
  fun_induction Text.join " " texts with
  | case1 => simp [HasOnlySpaces]
  | case2 text => exact each text (List.mem_singleton_self text)
  | case3 text texts _ inductionHypothesis =>
    obtain ⟨first, others⟩ := List.forall_mem_cons.1 each
    exact (first.append space).append (inductionHypothesis others)

/-- Such a text has no line feed. -/
theorem noFeed (only : text.HasOnlySpaces) : '\n' ∉ text :=
  fun member => absurd (only '\n' member (by decide)) (by decide)

/-- Such a text has no carriage return to lose in front of a line feed. -/
theorem dropReturn_eq (only : text.HasOnlySpaces) : dropReturn text = text := by
  unfold dropReturn
  split
  · rename_i last
    exact absurd (only '\r' (List.mem_of_getLast? last) (by decide)) (by decide)
  · rfl

end HasOnlySpaces

/-- A line with others behind it ends at its line feed. -/
theorem endLines_cons {others : List Text} (more : others ≠ []) (line : Text) :
    endLines (line :: others) = dropReturn line :: endLines others := by
  rw [endLines]
  exact more

/-- Texts on one line each, with empty lines between them, are the lines that are not empty. -/
theorem filter_lines_join {texts : List Text} (nonempty : ∀ text ∈ texts, text ≠ [])
    (only : ∀ text ∈ texts, HasOnlySpaces text) :
    (lines (join "\n\n" texts)).filter (!·.isEmpty) = texts := by
  induction texts with
  | nil => rfl
  | cons text texts inductionHypothesis =>
    obtain ⟨here, behind⟩ := List.forall_mem_cons.1 nonempty
    obtain ⟨onlyHere, onlyBehind⟩ := List.forall_mem_cons.1 only
    cases texts with
    | nil =>
      have single : lines (join "\n\n" [text]) = if text.isEmpty then [] else [text] :=
        congrArg endLines (splitAtFeeds_of_noFeed onlyHere.noFeed)
      rw [single]
      simp [here]
    | cons second texts =>
      have split : splitAtFeeds (join "\n\n" (text :: second :: texts)) =
          text :: [] :: splitAtFeeds (join "\n\n" (second :: texts)) := by
        rw [join_cons (List.cons_ne_nil second texts)]
        exact (splitAtFeeds_line_append onlyHere.noFeed _).trans
          (congrArg (text :: ·) (splitAtFeeds_line_append List.not_mem_nil _))
      have first : lines (join "\n\n" (text :: second :: texts)) =
          text :: [] :: lines (join "\n\n" (second :: texts)) := by
        rw [lines, ← splitAtFeeds, split, endLines_cons (List.cons_ne_nil _ _), onlyHere.dropReturn_eq,
          splitAtFeeds, endLines_cons (splitWhere_ne_nil _ _)]
        rfl
      rw [first, List.filter_cons, List.filter_cons, inductionHypothesis behind onlyBehind]
      simp [here]

/-- Nothing is left of a text without its trailing white space exactly when all of it is white space. -/
theorem trimEnd_eq_nil_iff {text : Text} : trimEnd text = [] ↔ ∀ c ∈ text, isBlank c = true := by
  constructor
  · intro nothing
    rw [← unspaced_eq_nil_iff, ← unspaced_trimEnd, nothing, unspaced_nil]
  · intro allBlank
    induction text with
    | nil => rfl
    | cons c rest inductionHypothesis =>
      obtain ⟨first, others⟩ := List.forall_mem_cons.1 allBlank
      have nothing := inductionHypothesis others
      rw [trimEnd] at nothing
      rw [trimEnd, dropEnd_cons, if_pos nothing, if_pos first]

/-- Nothing is left of a trimmed text exactly when nothing of it is left without white space. -/
theorem trim_eq_nil_iff {text : Text} : trim text = [] ↔ unspaced text = [] := by
  rw [trim, trimEnd_eq_nil_iff, ← unspaced_eq_nil_iff, unspaced_trimStart]

/-- The end of a text is trimmed in its second part, unless this is white space. -/
theorem trimEnd_append (left right : Text) :
    trimEnd (left ++ right) = if trimEnd right = [] then trimEnd left else left ++ trimEnd right := by
  induction left with
  | nil =>
    rw [List.nil_append, List.nil_append]
    split
    · assumption
    · rfl
  | cons c left inductionHypothesis =>
    rw [trimEnd] at inductionHypothesis
    rw [List.cons_append, trimEnd, dropEnd_cons, inductionHypothesis]
    split
    · rw [trimEnd, trimEnd, dropEnd_cons]
    · rename_i something
      rw [if_neg (by simp [something])]
      rfl

/-- Trimming the end of a part of a text makes no difference to the end of the text. -/
theorem trimEnd_append_congr {right other : Text} (same : trimEnd right = trimEnd other) (left : Text) :
    trimEnd (left ++ right) = trimEnd (left ++ other) := by
  rw [trimEnd_append, trimEnd_append, same]

/-- White space at the end of a text makes no difference. -/
theorem trimEnd_append_blank {blank : Text} (allBlank : ∀ c ∈ blank, isBlank c = true) (text : Text) :
    trimEnd (text ++ blank) = trimEnd text := by
  rw [trimEnd_append, if_pos (trimEnd_eq_nil_iff.2 allBlank)]

/-- White space is dropped at the start of a text and trimmed at its end in either order. -/
theorem trimEnd_dropWhile {drop : Char → Bool} (onlyBlank : ∀ c, drop c = true → isBlank c = true)
    (text : Text) : trimEnd (text.dropWhile drop) = (trimEnd text).dropWhile drop := by
  induction text with
  | nil => rfl
  | cons c rest inductionHypothesis =>
    by_cases dropped : drop c = true
    · rw [List.dropWhile_cons_of_pos dropped, inductionHypothesis, ← List.singleton_append,
        trimEnd_append [c] rest]
      split
      · rename_i nothing
        rw [nothing, trimEnd_eq_nil_iff.2 (List.forall_mem_singleton.2 (onlyBlank c dropped))]
      · rw [List.singleton_append, List.dropWhile_cons_of_pos dropped]
    · rw [List.dropWhile_cons_of_neg dropped]
      obtain ⟨blank, whole, -⟩ := exists_trimEnd_append (c :: rest)
      cases kept : trimEnd (c :: rest) with
      | nil => rfl
      | cons d others =>
        rw [kept] at whole
        obtain ⟨rfl, -⟩ := List.cons.inj whole
        rw [List.dropWhile_cons_of_neg dropped]

end ProseTree.Text
