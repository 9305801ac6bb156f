import ProseTree.Proofs.Text.Blank
import ProseTree.Proofs.Text.Lines
import ProseTree.Proofs.Text.Tokens

/-!
# Line ends

A line may end with a line feed alone, or with a carriage return and a line feed. To whatever looks at white
space as one class of characters this makes no difference: a text with a carriage return in front of every
line feed is trimmed in the same places and has the same tokens.
-/

namespace ProseTree.Text

/-- The text with a carriage return in front of every line feed. -/
def withReturns (text : Text) : Text :=
  text.flatMap fun c => if c = '\n' then ['\r', '\n'] else [c]

@[simp]
theorem withReturns_nil : withReturns [] = [] := rfl

@[simp]
theorem withReturns_append (left right : Text) :
    withReturns (left ++ right) = withReturns left ++ withReturns right :=
  List.flatMap_append

/-- A line feed gets a carriage return. -/
theorem withReturns_feed_cons (rest : Text) :
    withReturns ('\n' :: rest) = '\r' :: '\n' :: withReturns rest := rfl

/-- Any other character stays as it is. -/
theorem withReturns_cons_of_ne {c : Char} (other : c ≠ '\n') (rest : Text) :
    withReturns (c :: rest) = c :: withReturns rest := by
  simp [withReturns, other]

/-- A text without line feeds stays as it is. -/
theorem withReturns_eq_self {text : Text} (noFeed : '\n' ∉ text) : withReturns text = text := by
  induction text with
  | nil => rfl
  | cons c rest inductionHypothesis =>
    have other : c ≠ '\n' := fun isFeed => noFeed (isFeed ▸ List.mem_cons_self)
    rw [withReturns_cons_of_ne other,
      inductionHypothesis fun member => noFeed (List.mem_cons_of_mem c member)]

/-- A text of no white space stays as it is. -/
theorem withReturns_eq_self_of_noBlank {text : Text} (noBlank : ∀ c ∈ text, isBlank c = false) :
    withReturns text = text :=
  withReturns_eq_self fun member => absurd (noBlank _ member) (by decide)

/-- Nothing is left out of a text. -/
@[simp]
theorem withReturns_eq_nil_iff {text : Text} : withReturns text = [] ↔ text = [] := by
  constructor
  · intro nothing
    cases text with
    | nil => rfl
    | cons c rest =>
      by_cases isFeed : c = '\n'
      · rw [isFeed, withReturns_feed_cons] at nothing
        cases nothing
      · rw [withReturns_cons_of_ne isFeed] at nothing
        cases nothing
  · rintro rfl
    rfl

@[simp]
theorem isEmpty_withReturns (text : Text) : (withReturns text).isEmpty = text.isEmpty := by
  rw [Bool.eq_iff_iff, List.isEmpty_iff, List.isEmpty_iff, withReturns_eq_nil_iff]

section Class

variable {inClass : Char → Bool} (alike : inClass '\r' = inClass '\n')

include alike

/-- A class that has both characters of a line end or neither is met in a text with returns or without. -/
theorem any_withReturns (text : Text) : (withReturns text).any inClass = text.any inClass := by
  induction text with
  | nil => rfl
  | cons c rest inductionHypothesis =>
    by_cases isFeed : c = '\n'
    · simp only [isFeed, withReturns_feed_cons, List.any_cons, inductionHypothesis, alike, Bool.or_self_left]
    · simp only [withReturns_cons_of_ne isFeed, List.any_cons, inductionHypothesis]

/-- What such a class takes from the start gets its returns like the whole text. -/
theorem takeWhile_withReturns (text : Text) :
    (withReturns text).takeWhile inClass = withReturns (text.takeWhile inClass) := by
  induction text with
  | nil => rfl
  | cons c rest inductionHypothesis =>
    by_cases isFeed : c = '\n'
    · rw [isFeed, withReturns_feed_cons]
      cases taken : inClass '\n' with
      | true =>
        simp only [List.takeWhile_cons, alike, taken, if_true, inductionHypothesis, withReturns_feed_cons]
      | false => simp [alike, taken]
    · rw [withReturns_cons_of_ne isFeed]
      cases taken : inClass c with
      | true =>
        simp only [List.takeWhile_cons, taken, if_true, inductionHypothesis, withReturns_cons_of_ne isFeed]
      | false => simp [taken]

/-- What such a class leaves at the end gets its returns like the whole text. -/
theorem dropWhile_withReturns (text : Text) :
    (withReturns text).dropWhile inClass = withReturns (text.dropWhile inClass) := by
  have whole := congrArg withReturns (List.takeWhile_append_dropWhile (p := inClass) (l := text))
  rw [withReturns_append, ← takeWhile_withReturns alike] at whole
  refine List.append_cancel_left (Eq.trans ?_ whole.symm)
  exact List.takeWhile_append_dropWhile

/-- What such a class drops from the end is dropped with its returns. -/
theorem dropEnd_withReturns (text : Text) :
    dropEnd inClass (withReturns text) = withReturns (dropEnd inClass text) := by
  induction text with
  | nil => rfl
  | cons c rest inductionHypothesis =>
    by_cases isFeed : c = '\n'
    · rw [isFeed, withReturns_feed_cons, dropEnd_cons, dropEnd_cons, dropEnd_cons, inductionHypothesis]
      by_cases nothing : dropEnd inClass rest = []
      · cases dropped : inClass '\n' <;> simp [nothing, alike, dropped, withReturns_feed_cons]
      · simp [nothing, withReturns_feed_cons]
    · rw [withReturns_cons_of_ne isFeed, dropEnd_cons, dropEnd_cons, inductionHypothesis]
      by_cases nothing : dropEnd inClass rest = []
      · cases dropped : inClass c <;> simp [nothing, withReturns_cons_of_ne isFeed]
      · simp [nothing, withReturns_cons_of_ne isFeed]

end Class

section Trimming

variable (text : Text)

@[simp]
theorem trimStart_withReturns : trimStart (withReturns text) = withReturns (trimStart text) :=
  dropWhile_withReturns rfl text

@[simp]
theorem trimEnd_withReturns : trimEnd (withReturns text) = withReturns (trimEnd text) :=
  dropEnd_withReturns rfl text

@[simp]
theorem trim_withReturns : trim (withReturns text) = withReturns (trim text) := by
  rw [trim, trimStart_withReturns, trimEnd_withReturns, trim]

end Trimming

/-- Where white space stands, a text falls into two texts with tokens of their own. -/
theorem tokens_append_blank_cons {d : Char} (isCut : isBlank d = true) (left right : Text) :
    tokens (left ++ d :: right) = tokens left ++ tokens right := by
  simp only [tokens, splitWhere_eq_splitOnP, List.splitOnP_append_cons left right isCut, List.filter_append]

/-- Returns in front of line feeds change no token. -/
@[simp]
theorem tokens_withReturns (text : Text) : tokens (withReturns text) = tokens text := by
  have feed : isBlank '\n' = true := rfl
  have onLines := isOnLines text
  induction onLines with
  | last noFeed => rw [withReturns_eq_self noFeed]
  | @cons line rest noFeed _ inductionHypothesis =>
    have behind : tokens ('\n' :: withReturns rest) = tokens (withReturns rest) :=
      tokens_append_blank_cons feed [] (withReturns rest)
    rw [withReturns_append, withReturns_eq_self noFeed, withReturns_feed_cons,
      tokens_append_blank_cons rfl, behind, inductionHypothesis, tokens_append_blank_cons feed]

/-- A text with returns is cut where the text without them can be cut, but between the two characters of a
line end. -/
theorem exists_of_withReturns_eq_append {text left right : Text}
    (whole : withReturns text = left ++ right) (apart : right.head? ≠ some '\n') :
    ∃ before after, text = before ++ after ∧ withReturns before = left ∧ withReturns after = right := by
  induction text generalizing left with
  | nil =>
    obtain ⟨rfl, rfl⟩ := List.append_eq_nil_iff.1 whole.symm
    exact ⟨[], [], rfl, rfl, rfl⟩
  | cons c rest inductionHypothesis =>
    cases left with
    | nil => exact ⟨[], c :: rest, rfl, rfl, whole⟩
    | cons d left =>
      by_cases isFeed : c = '\n'
      · rw [isFeed, withReturns_feed_cons, List.cons_append] at whole
        obtain ⟨rfl, behind⟩ := List.cons.inj whole
        cases left with
        | nil =>
          rw [List.nil_append] at behind
          exact absurd (congrArg List.head? behind.symm) apart
        | cons e left =>
          obtain ⟨rfl, following⟩ := List.cons.inj behind
          obtain ⟨before, after, rfl, rfl, rfl⟩ := inductionHypothesis following
          exact ⟨'\n' :: before, after, by rw [isFeed]; rfl, rfl, rfl⟩
      · rw [withReturns_cons_of_ne isFeed, List.cons_append] at whole
        obtain ⟨rfl, following⟩ := List.cons.inj whole
        obtain ⟨before, after, rfl, rfl, rfl⟩ := inductionHypothesis following
        exact ⟨c :: before, after, rfl, withReturns_cons_of_ne isFeed before, rfl⟩

/-- Only a text without line feeds can have no return after all. -/
theorem eq_of_withReturns_eq {text solid : Text} (noBlank : ∀ c ∈ solid, isBlank c = false)
    (same : withReturns text = solid) : text = solid := by
  have noneBlank : text.any isBlank = false := by
    rw [← any_withReturns rfl, same]
    simpa using noBlank
  rw [← same, withReturns_eq_self_of_noBlank (forall_eq_false_of_any noneBlank)]

section Markers

variable {marker : Text}

/-- A marker without line ends is found at the start of a text with returns or without. -/
theorem dropBeginning?_withReturns (onLine : '\r' ∉ marker ∧ '\n' ∉ marker) (text : Text) :
    dropBeginning? marker (withReturns text) = (dropBeginning? marker text).map withReturns := by
  induction marker generalizing text with
  | nil => rfl
  | cons d marker inductionHypothesis =>
    simp only [List.mem_cons, not_or] at onLine
    obtain ⟨⟨noReturn, othersNoReturn⟩, noFeed, othersNoFeed⟩ := onLine
    cases text with
    | nil => rfl
    | cons c rest =>
      by_cases isFeed : c = '\n'
      · simp [isFeed, withReturns_feed_cons, dropBeginning?, Ne.symm noReturn, Ne.symm noFeed]
      · rw [withReturns_cons_of_ne isFeed, dropBeginning?, dropBeginning?,
          inductionHypothesis ⟨othersNoReturn, othersNoFeed⟩]
        split <;> rfl

/-- What a text ends with is found at its end with returns or without. -/
theorem dropEnding?_withReturns (noBlank : ∀ c ∈ marker, isBlank c = false) (text : Text) :
    dropEnding? marker (withReturns text) = (dropEnding? marker text).map withReturns := by
  cases found : dropEnding? marker text with
  | some before =>
    rw [dropEnding?_eq_some_iff] at found
    rw [Option.map_some, dropEnding?_eq_some_iff, found, withReturns_append,
      withReturns_eq_self_of_noBlank noBlank]
  | none =>
    rw [Option.map_none, Option.eq_none_iff_forall_ne_some]
    intro left dropped
    rw [dropEnding?_eq_some_iff] at dropped
    have apart : marker.head? ≠ some '\n' := by
      intro first
      exact absurd (noBlank _ (List.mem_of_head? first)) (by decide)
    obtain ⟨before, after, rfl, -, isMarker⟩ := exists_of_withReturns_eq_append dropped apart
    rw [eq_of_withReturns_eq noBlank isMarker, dropEnding?_eq_some_iff.2 rfl] at found
    cases found

end Markers

end ProseTree.Text
