import ProseTree.Text.Basic

/-!
# Cutting texts at a character class

The longest start of a text that lies in a class of characters, and what stands behind it, are known
as soon as the text is written as a part inside the class and a rest that does not go on with it.
-/

namespace ProseTree.Text

section Ended

variable {α : Type} {inClass : α → Bool} {body rest : List α}

/-- The part inside the class is taken whole. -/
theorem takeWhile_append_of_ended (inside : ∀ c ∈ body, inClass c = true)
    (ended : ∀ c ∈ rest.head?, inClass c = false) : (body ++ rest).takeWhile inClass = body := by
  have stopped : rest.takeWhile inClass = [] := by
    cases rest with
    | nil => rfl
    | cons c _ => rw [List.takeWhile_cons, ended c rfl]; rfl
  rw [List.takeWhile_append_of_pos inside, stopped, List.append_nil]

/-- The rest behind the part inside the class is left whole. -/
theorem dropWhile_append_of_ended (inside : ∀ c ∈ body, inClass c = true)
    (ended : ∀ c ∈ rest.head?, inClass c = false) : (body ++ rest).dropWhile inClass = rest := by
  rw [List.dropWhile_append_of_pos inside]
  cases rest with
  | nil => rfl
  | cons c _ => rw [List.dropWhile_cons, ended c rfl]; rfl

/-- Where a part inside the class ends is known from the whole. -/
theorem append_inj_of_ended {left right more : List α} (leftInside : ∀ c ∈ left, inClass c = true)
    (leftEnded : ∀ c ∈ rest.head?, inClass c = false) (rightInside : ∀ c ∈ right, inClass c = true)
    (rightEnded : ∀ c ∈ more.head?, inClass c = false) (same : left ++ rest = right ++ more) :
    left = right ∧ rest = more := by
  have first : left = right := by
    rw [← takeWhile_append_of_ended leftInside leftEnded, same,
      takeWhile_append_of_ended rightInside rightEnded]
  rw [first] at same
  exact ⟨first, List.append_cancel_left same⟩

/-- What a class takes from the start ends before a character outside of it. -/
theorem takeWhile_append_cons_of_neg {d : α} (outside : inClass d = false) (left right : List α) :
    (left ++ d :: right).takeWhile inClass = left.takeWhile inClass := by
  induction left with
  | nil => exact List.takeWhile_cons_of_neg (by simp [outside])
  | cons c left inductionHypothesis =>
    rw [List.cons_append, List.takeWhile_cons, List.takeWhile_cons, inductionHypothesis]

/-- A character outside of a class is left with all that stands behind it. -/
theorem dropWhile_append_cons_of_neg {d : α} (outside : inClass d = false) (left right : List α) :
    (left ++ d :: right).dropWhile inClass = left.dropWhile inClass ++ d :: right := by
  induction left with
  | nil => exact List.dropWhile_cons_of_neg (by simp [outside])
  | cons c left inductionHypothesis =>
    rw [List.cons_append, List.dropWhile_cons, List.dropWhile_cons, inductionHypothesis]
    split <;> rfl

end Ended

/-- The end of a text is dropped character by character. -/
theorem dropEnd_cons {inClass : Char → Bool} (c : Char) (rest : Text) :
    dropEnd inClass (c :: rest) =
      if dropEnd inClass rest = [] then if inClass c then [] else [c]
      else c :: dropEnd inClass rest := by
  rw [dropEnd]
  split
  · rename_i nothing
    rw [if_pos nothing]
  · rename_i something
    rw [if_neg something]

/-- A text that starts with no white space keeps its start. -/
theorem exists_trimEnd_cons {c : Char} (solid : isBlank c = false) (rest : Text) :
    ∃ kept, trimEnd (c :: rest) = c :: kept := by
  rw [trimEnd, dropEnd_cons]
  split
  · rw [if_neg (by simp [solid])]
    exact ⟨[], rfl⟩
  · exact ⟨_, rfl⟩

/-- A text that starts with no white space keeps all of its start. -/
theorem trimStart_eq_self {text : Text} (solid : ∀ c ∈ text.head?, isBlank c = false) :
    trimStart text = text := by
  cases text with
  | nil => rfl
  | cons c rest =>
    have first := solid c rfl
    exact List.dropWhile_cons_of_neg (by simp [first])

/-- A text that ends with no white space keeps all of its end. -/
theorem trimEnd_eq_self {text : Text} (solid : ∀ c ∈ text.getLast?, isBlank c = false) :
    trimEnd text = text := by
  induction text with
  | nil => rfl
  | cons c rest inductionHypothesis =>
    rw [trimEnd, dropEnd_cons]
    cases rest with
    | nil => simp [dropEnd, solid c rfl]
    | cons d rest =>
      have others := inductionHypothesis (by simpa using solid)
      rw [trimEnd] at others
      rw [others, if_neg (by simp)]

/-- What is trimmed from the end of a text is white space. -/
theorem exists_trimEnd_append (text : Text) :
    ∃ blank, text = trimEnd text ++ blank ∧ ∀ c ∈ blank, isBlank c = true := by
  induction text with
  | nil => exact ⟨[], rfl, by simp⟩
  | cons c rest inductionHypothesis =>
    obtain ⟨blank, whole, allBlank⟩ := inductionHypothesis
    rw [trimEnd, dropEnd_cons]
    rw [trimEnd] at whole
    by_cases nothing : dropEnd isBlank rest = []
    · rw [nothing, List.nil_append] at whole
      rw [if_pos nothing, whole]
      by_cases isCut : isBlank c = true
      · rw [if_pos isCut]
        exact ⟨c :: blank, rfl, List.forall_mem_cons.2 ⟨isCut, allBlank⟩⟩
      · rw [if_neg isCut]
        exact ⟨blank, rfl, allBlank⟩
    · rw [if_neg nothing]
      exact ⟨blank, congrArg (c :: ·) whole, allBlank⟩

/-- A trimmed text is a part of the text. -/
theorem exists_append_trim (text : Text) : ∃ before after, text = before ++ trim text ++ after := by
  obtain ⟨after, whole, _⟩ := exists_trimEnd_append (trimStart text)
  refine ⟨text.takeWhile isBlank, after, ?_⟩
  rw [List.append_assoc, trim, ← whole, takeWhile_append_trimStart]

/-- No white space ends a text that is trimmed at its end. -/
theorem isBlank_of_mem_getLast?_trimEnd {text : Text} :
    ∀ c ∈ (trimEnd text).getLast?, isBlank c = false := by
  induction text with
  | nil => simp [trimEnd, dropEnd]
  | cons d rest inductionHypothesis =>
    rw [trimEnd] at inductionHypothesis ⊢
    rw [dropEnd_cons]
    split
    · split
      · simp
      · rename_i kept
        simpa using kept
    · rename_i something
      intro c final
      rw [List.getLast?_cons_of_ne_nil something] at final
      exact inductionHypothesis c final

/-- No white space starts a trimmed text. -/
theorem isBlank_of_mem_head?_trim {text : Text} : ∀ c ∈ (trim text).head?, isBlank c = false := by
  intro c starts
  rw [trim] at starts
  cases kept : trimStart text with
  | nil =>
    rw [kept] at starts
    cases starts
  | cons d rest =>
    have solid : isBlank d = false := by
      have first := List.head?_dropWhile_not isBlank text
      rw [trimStart] at kept
      simpa [kept] using first
    obtain ⟨more, trimmed⟩ := exists_trimEnd_cons solid rest
    rw [kept, trimmed] at starts
    cases starts
    exact solid

/-- A trimmed text is trimmed already. -/
@[simp]
theorem trim_trim (text : Text) : trim (trim text) = trim text := by
  rw [trim, trimStart_eq_self fun c starts => isBlank_of_mem_head?_trim c starts]
  exact trimEnd_eq_self isBlank_of_mem_getLast?_trimEnd

/-- Behind the first of some joined pieces stands the separator. -/
theorem join_cons {others : List Text} (more : others ≠ []) (separator first : Text) :
    join separator (first :: others) = first ++ (separator ++ join separator others) := by
  rw [join, List.append_assoc]
  exact more

/-- Pieces that are joined in two groups are joined. -/
theorem join_append {pieces others : List Text} (some : pieces ≠ []) (more : others ≠ [])
    (separator : Text) :
    join separator (pieces ++ others) = join separator pieces ++ (separator ++ join separator others) := by
  induction pieces with
  | nil => exact absurd rfl some
  | cons piece pieces inductionHypothesis =>
    cases pieces with
    | nil => exact join_cons more separator piece
    | cons next pieces =>
      have following := inductionHypothesis (List.cons_ne_nil next pieces)
      rw [List.cons_append, join_cons (by simp), following, join_cons (List.cons_ne_nil next pieces)]
      simp only [List.append_assoc]

/-- Pieces that are joined in groups are joined. -/
theorem join_flatten {groups : List (List Text)} (nonempty : ∀ group ∈ groups, group ≠ [])
    (separator : Text) :
    join separator (groups.map (join separator)) = join separator groups.flatten := by
  induction groups with
  | nil => rfl
  | cons group groups inductionHypothesis =>
    obtain ⟨first, others⟩ := List.forall_mem_cons.1 nonempty
    have following := inductionHypothesis others
    cases groups with
    | nil => simp [join]
    | cons next groups =>
      have more : (next :: groups).flatten ≠ [] := by
        simp [List.forall_mem_cons.1 others]
      rw [List.map_cons, join_cons (by simp), following, ← join_append first more]
      rfl

/-- Joined pieces start with the first one. -/
theorem exists_join_eq_append (separator first : Text) (others : List Text) :
    ∃ rest, join separator (first :: others) = first ++ rest := by
  cases others with
  | nil => exact ⟨[], (List.append_nil first).symm⟩
  | cons second others => exact ⟨_, join_cons (List.cons_ne_nil second others) separator first⟩

/-- A text of which no rest is left behind a beginning does not start with it. -/
theorem dropBeginning?_eq_none_iff {beginning text : Text} :
    dropBeginning? beginning text = none ↔ ¬ beginning <+: text := by
  rw [Option.eq_none_iff_forall_ne_some]
  constructor
  · rintro missing ⟨rest, rfl⟩
    exact missing rest (dropBeginning?_eq_some_iff.2 rfl)
  · intro startsElse rest found
    exact startsElse ⟨rest, (dropBeginning?_eq_some_iff.1 found).symm⟩

/-- A text ends with `ending` exactly when it is a rest and `ending`. -/
theorem dropEnding?_eq_some_iff {ending text rest : Text} :
    dropEnding? ending text = some rest ↔ text = rest ++ ending := by
  unfold dropEnding?
  constructor
  · intro dropped
    obtain ⟨reversed, found, rfl⟩ := Option.map_eq_some_iff.1 dropped
    simpa using congrArg List.reverse (dropBeginning?_eq_some_iff.1 found)
  · rintro rfl
    rw [dropBeginning?_eq_some_iff.2 List.reverse_append]
    simp

/-- A part without white space at the end of a text is a part of the last word. -/
theorem suffix_of_suffix_append {part before word : Text} (noBlank : ∀ c ∈ part, isBlank c = false)
    (apart : ∀ c ∈ before.getLast?, isBlank c = true) (isSuffix : part <:+ before ++ word) :
    part <:+ word := by
  rcases List.suffix_or_suffix_of_suffix isSuffix (List.suffix_append before word) with inside | around
  · exact inside
  · obtain ⟨more, rfl⟩ := around
    obtain ⟨start, whole⟩ := isSuffix
    rw [← List.append_assoc] at whole
    have same := List.append_cancel_right whole
    cases final : more.getLast? with
    | none =>
      rw [List.getLast?_eq_none_iff.1 final]
      exact List.suffix_refl word
    | some c =>
      -- The part would hold the white space in front of the word.
      have blank := apart c (by rw [← same, List.getLast?_append, final]; rfl)
      have solid := noBlank c (List.mem_append_left _ (List.mem_of_getLast? final))
      rw [solid] at blank
      cases blank

end ProseTree.Text
