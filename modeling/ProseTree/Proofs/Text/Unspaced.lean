import ProseTree.Proofs.Text.Cutting

/-!
# Texts without their white space

Trimming a text and cutting it into tokens take away nothing but white space. Both are stated as one
equation on the text without its white space. Tokens are not empty and hold no white space, and
a text that is written as tokens with a space between them has exactly these tokens.
-/

namespace ProseTree.Text

/-- The text without its white space. -/
def unspaced (text : Text) : Text :=
  text.filter fun c => !isBlank c

@[simp]
theorem unspaced_nil : unspaced [] = [] := rfl

@[simp]
theorem unspaced_append (left right : Text) :
    unspaced (left ++ right) = unspaced left ++ unspaced right :=
  List.filter_append left right

@[simp]
theorem unspaced_flatten (pieces : List Text) : unspaced pieces.flatten = pieces.flatMap unspaced := by
  rw [unspaced, List.filter_flatten]
  rfl

/-- Without white space nothing is left exactly of white space. -/
theorem unspaced_eq_nil_iff {text : Text} :
    unspaced text = [] ↔ ∀ c ∈ text, isBlank c = true := by
  simp [unspaced]

/-- A character that is no white space stands in both texts equally often. -/
theorem count_unspaced {c : Char} (solid : isBlank c = false) (text : Text) :
    (unspaced text).count c = text.count c :=
  List.count_filter (by simp [solid])

section Trimming

variable {drop : Char → Bool}

/-- Dropping white space at the start leaves all else. -/
theorem unspaced_dropWhile (onlyBlank : ∀ c, drop c = true → isBlank c = true) (text : Text) :
    unspaced (text.dropWhile drop) = unspaced text := by
  induction text with
  | nil => rfl
  | cons c rest inductionHypothesis =>
    by_cases dropped : drop c = true
    · rw [List.dropWhile_cons_of_pos dropped, inductionHypothesis]
      simp [unspaced, onlyBlank c dropped]
    · rw [List.dropWhile_cons_of_neg dropped]

/-- Dropping white space at the end leaves all else. -/
theorem unspaced_dropEnd (onlyBlank : ∀ c, drop c = true → isBlank c = true) (text : Text) :
    unspaced (dropEnd drop text) = unspaced text := by
  induction text with
  | nil => rfl
  | cons c rest inductionHypothesis =>
    have whole : unspaced (c :: rest) = unspaced [c] ++ unspaced (dropEnd drop rest) := by
      rw [inductionHypothesis, ← unspaced_append, List.singleton_append]
    rw [whole, dropEnd_cons]
    split
    · rename_i nothing
      rw [nothing]
      split
      · rename_i dropped
        simp [unspaced, onlyBlank c dropped]
      · simp
    · rw [← unspaced_append, List.singleton_append]

end Trimming

@[simp]
theorem unspaced_trimStart (text : Text) : unspaced (trimStart text) = unspaced text :=
  unspaced_dropWhile (fun _ blank => blank) text

@[simp]
theorem unspaced_trimEnd (text : Text) : unspaced (trimEnd text) = unspaced text :=
  unspaced_dropEnd (fun _ blank => blank) text

@[simp]
theorem unspaced_trim (text : Text) : unspaced (trim text) = unspaced text := by
  rw [trim, unspaced_trimEnd, unspaced_trimStart]

section Splitting

variable {cut : Char → Bool}

/-- There is always a piece. -/
theorem splitWhere_ne_nil (cut : Char → Bool) (text : Text) : splitWhere cut text ≠ [] := by
  cases text with
  | nil => simp [splitWhere]
  | cons c rest =>
    unfold splitWhere
    split
    · simp
    · split <;> simp

/-- The first piece of a text goes on with a character that is no cut. -/
theorem splitWhere_cons_of_neg {c : Char} (kept : cut c = false) {rest piece : Text}
    {pieces : List Text} (split : splitWhere cut rest = piece :: pieces) :
    splitWhere cut (c :: rest) = (c :: piece) :: pieces := by
  simp [splitWhere, split, kept]

/-- A cut starts a new piece. -/
theorem splitWhere_cons_of_pos {c : Char} (isCut : cut c = true) (rest : Text) :
    splitWhere cut (c :: rest) = [] :: splitWhere cut rest := by
  obtain ⟨piece, pieces, split⟩ := List.exists_cons_of_ne_nil (splitWhere_ne_nil cut rest)
  simp [splitWhere, split, isCut]

/-- A text without cuts is one piece. -/
theorem splitWhere_of_none {piece : Text} (kept : ∀ c ∈ piece, cut c = false) :
    splitWhere cut piece = [piece] := by
  induction piece with
  | nil => rfl
  | cons c piece inductionHypothesis =>
    obtain ⟨first, others⟩ := List.forall_mem_cons.1 kept
    exact splitWhere_cons_of_neg first (inductionHypothesis others)

/-- The text up to the first cut is the first piece. -/
theorem splitWhere_append_cons {piece : Text} (kept : ∀ c ∈ piece, cut c = false) {d : Char}
    (isCut : cut d = true) (rest : Text) :
    splitWhere cut (piece ++ d :: rest) = piece :: splitWhere cut rest := by
  induction piece with
  | nil => exact splitWhere_cons_of_pos isCut rest
  | cons c piece inductionHypothesis =>
    obtain ⟨first, others⟩ := List.forall_mem_cons.1 kept
    exact splitWhere_cons_of_neg first (inductionHypothesis others)

/-- A cut stands between the pieces before it and those behind it. -/
theorem splitWhere_append_cons_of_pos {d : Char} (isCut : cut d = true) (left right : Text) :
    splitWhere cut (left ++ d :: right) = splitWhere cut left ++ splitWhere cut right := by
  induction left with
  | nil => exact splitWhere_cons_of_pos isCut right
  | cons c left inductionHypothesis =>
    cases first : cut c with
    | true =>
      rw [List.cons_append, splitWhere_cons_of_pos first, splitWhere_cons_of_pos first, inductionHypothesis]
      rfl
    | false =>
      obtain ⟨piece, pieces, split⟩ := List.exists_cons_of_ne_nil (splitWhere_ne_nil cut left)
      rw [split] at inductionHypothesis
      rw [List.cons_append, splitWhere_cons_of_neg first inductionHypothesis,
        splitWhere_cons_of_neg first split]
      rfl

/-- The pieces together are the text without its cuts. -/
theorem flatten_splitWhere (text : Text) :
    (splitWhere cut text).flatten = text.filter fun c => !cut c := by
  induction text with
  | nil => rfl
  | cons c rest inductionHypothesis =>
    cases isCut : cut c with
    | true =>
      rw [splitWhere_cons_of_pos isCut, List.flatten_cons, inductionHypothesis]
      simp [isCut]
    | false =>
      obtain ⟨piece, pieces, split⟩ :=
        List.exists_cons_of_ne_nil (splitWhere_ne_nil cut rest)
      rw [split] at inductionHypothesis
      rw [splitWhere_cons_of_neg isCut split]
      simpa [isCut] using inductionHypothesis

/-- No piece holds a cut. -/
theorem eq_false_of_mem_splitWhere {text piece : Text} (member : piece ∈ splitWhere cut text) :
    ∀ c ∈ piece, cut c = false := by
  intro c inside
  have kept : c ∈ text.filter fun c => !cut c := by
    rw [← flatten_splitWhere]
    exact List.mem_flatten_of_mem member inside
  simpa using (List.mem_filter.1 kept).2

end Splitting

/-- Together the tokens are the text without its white space. -/
theorem flatten_tokens (text : Text) : (tokens text).flatten = unspaced text := by
  rw [tokens, unspaced, ← flatten_splitWhere]
  induction splitWhere isBlank text with
  | nil => rfl
  | cons piece pieces inductionHypothesis =>
    cases piece with
    | nil => simpa using inductionHypothesis
    | cons c piece => simpa using inductionHypothesis

/-- A text that has characters, none of them white space. -/
structure IsSolid (text : Text) : Prop where
  nonempty : text ≠ []
  noBlank : ∀ c ∈ text, isBlank c = false

/-- A token is not empty and holds no white space. -/
theorem isSolid_of_mem_tokens {text token : Text} (member : token ∈ tokens text) : token.IsSolid := by
  obtain ⟨piece, nonempty⟩ := List.mem_filter.1 member
  exact ⟨by simpa using nonempty, eq_false_of_mem_splitWhere piece⟩

end ProseTree.Text
