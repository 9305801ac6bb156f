import ProseTree.Proofs.Language.Escapes

/-!
# Class bodies

A class body is read atom by atom. What stands at its start for itself is taken off once, and the
rest of the body is a list of items. With this the digits that words may hold can be set behind the
letters of a language: the items of the letters stay as they are, unless the last one is a minus.
-/

namespace ProseTree.Language

namespace CharClass

/-- The atoms of the digits and the underscore that words may hold. -/
def digitAtoms : List Atom :=
  [⟨'0', true⟩, ⟨'-', true⟩, ⟨'9', true⟩, ⟨'_', true⟩]

/-- How an atom stands at the start of a body. -/
inductive Written : Atom → Text → Prop
  | plain {c : Char} (noBackslash : c ≠ '\\') : Written ⟨c, true⟩ [c]
  | escaped {char : Char} {spelling : Text}
      (means : ∀ more, escape? (spelling ++ more) = some (char, more)) :
      Written ⟨char, false⟩ ('\\' :: spelling)

/-- An atom is written with some character. -/
theorem Written.ne_nil {atom : Atom} {start : Text} (written : Written atom start) : start ≠ [] := by
  cases written <;> exact List.cons_ne_nil _ _

/-- An atom is read where it is written, whatever stands behind it. -/
theorem Written.atom?_eq {atom : Atom} {start : Text} (written : Written atom start) (more : Text) :
    atom? (start ++ more) = some (atom, more) := by
  cases written with
  | plain noBackslash =>
    rw [List.singleton_append, atom?]
    exact fun same => noBackslash same
  | escaped means => rw [List.cons_append, atom?, means, Option.map_some]

/-- An atom that is read at the start of a text is written there. -/
theorem exists_written_of_atom? {text rest : Text} {atom : Atom} (read : atom? text = some (atom, rest)) :
    ∃ start, text = start ++ rest ∧ Written atom start := by
  unfold atom? at read
  split at read
  · cases read
  · obtain ⟨⟨char, after⟩, means, same⟩ := Option.map_eq_some_iff.1 read
    cases same
    obtain ⟨spelling, -, rfl, again⟩ := takesStart_escape? means
    exact ⟨'\\' :: spelling, rfl, .escaped again⟩
  · rename_i c rest noBackslash
    cases read
    exact ⟨[c], rfl, .plain fun same => noBackslash same⟩

/-- What follows an atom is shorter than the text in front of which the atom stands. -/
theorem length_lt_of_atom? {text rest : Text} {atom : Atom} (read : atom? text = some (atom, rest)) :
    rest.length < text.length := by
  obtain ⟨start, rfl, written⟩ := exists_written_of_atom? read
  have positive := List.length_pos_iff.2 written.ne_nil
  rw [List.length_append]
  omega

/-- The atoms of a text are one at its start, and those of the rest. -/
theorem atomsUpTo?_succ (bound : Nat) {text : Text} (nonempty : text ≠ []) :
    atomsUpTo? (bound + 1) text =
      (atom? text).bind fun (atom, rest) => (atomsUpTo? bound rest).map (atom :: ·) := by
  obtain ⟨c, others, rfl⟩ := List.exists_cons_of_ne_nil nonempty
  rw [atomsUpTo?]
  · simp only [Option.bind_eq_bind, Option.map_eq_bind]
    rfl
  · exact nonempty

/-- A text has no more atoms than characters. -/
theorem atomsUpTo?_eq {few many : Nat} {text : Text} (enough : text.length ≤ few) (more : few ≤ many) :
    atomsUpTo? many text = atomsUpTo? few text := by
  induction few generalizing text many with
  | zero =>
    rw [List.eq_nil_of_length_eq_zero (Nat.le_zero.1 enough)]
    simp [atomsUpTo?]
  | succ few inductionHypothesis =>
    obtain ⟨less, rfl⟩ : ∃ less, many = less + 1 := ⟨many - 1, by omega⟩
    by_cases nonempty : text = []
    · simp [atomsUpTo?, nonempty]
    · rw [atomsUpTo?_succ less nonempty, atomsUpTo?_succ few nonempty]
      cases read : atom? text with
      | none => rfl
      | some both =>
        obtain ⟨atom, rest⟩ := both
        have shorter := length_lt_of_atom? read
        simp only [Option.bind_some]
        rw [inductionHypothesis (by omega) (by omega)]

/-- The first atom of a text stands in front of those of the rest. -/
theorem atoms?_eq {text : Text} (nonempty : text ≠ []) :
    atoms? text = (atom? text).bind fun (atom, rest) => (atoms? rest).map (atom :: ·) := by
  obtain ⟨length, size⟩ : ∃ length, text.length = length + 1 :=
    Nat.exists_eq_succ_of_ne_zero (by simpa using nonempty)
  rw [atoms?, size, atomsUpTo?_succ length nonempty]
  cases read : atom? text with
  | none => rfl
  | some both =>
    obtain ⟨atom, rest⟩ := both
    have shorter := length_lt_of_atom? read
    simp only [Option.bind_some]
    rw [atomsUpTo?_eq (Nat.le_refl _) (by omega), atoms?]

/-- A body without atoms is empty. -/
theorem eq_nil_of_atoms? {body : Text} (read : atoms? body = some []) : body = [] := by
  by_cases nonempty : body = []
  · exact nonempty
  · rw [atoms?_eq nonempty] at read
    obtain ⟨both, -, others⟩ := Option.bind_eq_some_iff.1 read
    obtain ⟨following, -, same⟩ := Option.map_eq_some_iff.1 others
    cases same

/-- The first atom of a body is written at its start. -/
theorem exists_written {body : Text} {atom : Atom} {atoms : List Atom}
    (read : atoms? body = some (atom :: atoms)) :
    ∃ start rest, body = start ++ rest ∧ Written atom start ∧ atoms? rest = some atoms := by
  have nonempty : body ≠ [] := by
    rintro rfl
    cases read
  rw [atoms?_eq nonempty] at read
  obtain ⟨⟨first, rest⟩, firstRead, others⟩ := Option.bind_eq_some_iff.1 read
  obtain ⟨following, restRead, same⟩ := Option.map_eq_some_iff.1 others
  cases same
  obtain ⟨start, rfl, written⟩ := exists_written_of_atom? firstRead
  exact ⟨start, rest, rfl, written, restRead⟩

/-- A mark is written as it is. -/
theorem eq_of_isMark {atom : Atom} {start : Text} (written : Written atom start) {mark : Char}
    (isMark : atom.isMark mark = true) : start = [mark] := by
  cases written with
  | plain _ => simpa [Atom.isMark] using isMark
  | escaped _ => simp [Atom.isMark] at isMark

/-- The atoms of a body go on behind those of its first part. -/
theorem atoms?_append {body more : Text} {atoms moreAtoms : List Atom}
    (read : atoms? body = some atoms) (moreRead : atoms? more = some moreAtoms) :
    atoms? (body ++ more) = some (atoms ++ moreAtoms) := by
  induction atoms generalizing body with
  | nil =>
    rw [eq_nil_of_atoms? read]
    exact moreRead
  | cons atom atoms inductionHypothesis =>
    obtain ⟨start, rest, rfl, written, restRead⟩ := exists_written read
    rw [List.append_assoc, atoms?_eq (by simp [written.ne_nil]), written.atom?_eq, Option.bind_some]
    exact Option.map_eq_some_iff.2 ⟨_, inductionHypothesis restRead, rfl⟩

/-- The atoms behind the minuses, or behind the one bracket, that stand for themselves at the start
of a body. -/
def itemAtoms (body : List Atom) : List Atom :=
  match body.takeWhile (·.isMark '-'), body.dropWhile (·.isMark '-') with
  | [], bracket :: rest => if bracket.isMark ']' then rest else bracket :: rest
  | _, rest => rest

/-- Behind minuses at the start of a body, all that follows them are items. -/
theorem itemAtoms_of_minuses {body : List Atom} (minuses : body.takeWhile (·.isMark '-') ≠ []) :
    itemAtoms body = body.dropWhile (·.isMark '-') := by
  unfold itemAtoms
  split
  · rename_i none _
    exact absurd none minuses
  · rfl

/-- Without a minus at the start of a body, all but a bracket there are items. -/
theorem itemAtoms_cons {first : Atom} (noMinus : first.isMark '-' = false) (rest : List Atom) :
    itemAtoms (first :: rest) = if first.isMark ']' then rest else first :: rest := by
  simp [itemAtoms, noMinus]

/-- The ranges of the minuses, or of the one bracket, that stand for themselves at the start of a
body. -/
def leadingRanges (body : List Atom) : List CharRange :=
  match body.takeWhile (·.isMark '-'), body.dropWhile (·.isMark '-') with
  | [], bracket :: _ => if bracket.isMark ']' then [⟨']', ']'⟩] else []
  | minuses, _ => minuses.map fun minus => ⟨minus.char, minus.char⟩

/-- The ranges of a body are those of its start and those of its items. -/
theorem ranges?_eq (body : List Atom) :
    ranges? body = (items? (itemAtoms body)).map (leadingRanges body ++ ·) := by
  unfold ranges? itemAtoms leadingRanges
  cases body.takeWhile (·.isMark '-') with
  | nil =>
    cases body.dropWhile (·.isMark '-') with
    | nil => rfl
    | cons bracket rest =>
      simp only [List.map_nil]
      split
      · rfl
      · simp
  | cons minus minuses => rfl

/-- A body has ranges when its start has been taken off and the rest has them. -/
theorem isSome_ranges? (body : List Atom) :
    (ranges? body).isSome = (items? (itemAtoms body)).isSome := by
  rw [ranges?_eq, Option.isSome_map]

/-- What stands behind a body adds nothing to the minuses at its start, unless it goes on with one. -/
theorem minuses_append (body : List Atom) {more : List Atom}
    (noMinus : ∀ first ∈ more.head?, first.isMark '-' = false) :
    (body ++ more).takeWhile (·.isMark '-') = body.takeWhile (·.isMark '-') ∧
      (body ++ more).dropWhile (·.isMark '-') = body.dropWhile (·.isMark '-') ++ more := by
  have cut : body = body.takeWhile (·.isMark '-') ++ body.dropWhile (·.isMark '-') :=
    List.takeWhile_append_dropWhile.symm
  have minuses : ∀ atom ∈ body.takeWhile (·.isMark '-'), atom.isMark '-' = true :=
    fun atom member => List.all_eq_true.1 List.all_takeWhile atom member
  have ended : ∀ atom ∈ (body.dropWhile (·.isMark '-') ++ more).head?,
      atom.isMark '-' = false := by
    intro atom first
    cases same : body.dropWhile (·.isMark '-') with
    | nil =>
      rw [same] at first
      exact noMinus atom first
    | cons head rest =>
      rw [same] at first
      cases first
      have stopped := List.head?_dropWhile_not (·.isMark '-') body
      rw [same] at stopped
      simpa using stopped
  have takes := Text.takeWhile_append_of_ended minuses ended
  have drops := Text.dropWhile_append_of_ended minuses ended
  rw [← List.append_assoc, ← cut] at takes drops
  exact ⟨takes, drops⟩

/-- What stands behind a body stands behind its items, unless it goes on with a minus. -/
theorem itemAtoms_append {body more : List Atom} (nonempty : body ≠ [])
    (noMinus : ∀ first ∈ more.head?, first.isMark '-' = false) :
    itemAtoms (body ++ more) = itemAtoms body ++ more := by
  obtain ⟨takes, drops⟩ := minuses_append body noMinus
  unfold itemAtoms
  rw [takes, drops]
  cases none : body.takeWhile (·.isMark '-') with
  | nil =>
    cases rest : body.dropWhile (·.isMark '-') with
    | nil =>
      rw [← List.takeWhile_append_dropWhile (p := fun atom : Atom => atom.isMark '-') (l := body),
        none, rest] at nonempty
      exact absurd rfl nonempty
    | cons bracket others =>
      simp only [List.cons_append]
      split <;> rfl
  | cons minus others => rfl

/-- Only an empty body has no items. -/
theorem eq_nil_of_items? {atoms : List Atom} (read : items? atoms = some []) : atoms = [] := by
  unfold items? at read
  split at read
  · rfl
  all_goals
    repeat' split at read
    all_goals simp at read

/-- Only an empty body has no ranges. -/
theorem ranges?_eq_nil_iff {body : List Atom} : ranges? body = some [] ↔ body = [] := by
  constructor
  · intro read
    rw [← List.takeWhile_append_dropWhile (p := fun atom : Atom => atom.isMark '-') (l := body)]
    unfold ranges? at read
    cases minuses : body.takeWhile (·.isMark '-') with
    | nil =>
      cases rest : body.dropWhile (·.isMark '-') with
      | nil => rfl
      | cons bracket others =>
        simp only [minuses, rest, List.map_nil] at read
        split at read
        · simp at read
        · cases eq_nil_of_items? read
    | cons minus others => simp [minuses] at read
  · rintro rfl
    rfl

/-- The atoms of a body without its circumflex. -/
def afterCircumflex : List Atom → List Atom
  | [] => []
  | first :: rest => if first.isMark '^' then rest else first :: rest

/-- A body denotes a class when something stands behind its circumflex and has ranges. -/
theorem isSome_ofBody?_iff {body : Text} {atoms : List Atom} (read : atoms? body = some atoms) :
    (ofBody? body).isSome ↔
      afterCircumflex atoms ≠ [] ∧ (items? (itemAtoms (afterCircumflex atoms))).isSome := by
  have inner : (if (atoms.head?.map (·.isMark '^')).getD false then atoms.drop 1 else atoms) =
      afterCircumflex atoms := by
    cases atoms <;> rfl
  rw [← isSome_ranges?, Ne, ← ranges?_eq_nil_iff]
  simp only [ofBody?, read, Option.bind_eq_bind, Option.bind_some, inner]
  cases ranges? (afterCircumflex atoms) with
  | none => simp
  | some ranges => cases ranges <;> simp

/-- A plain body has atoms with items behind its start. -/
theorem exists_atoms_of_isSome_ofBody? {body : Text} (plain : (ofBody? body).isSome) :
    ∃ atoms, atoms? body = some atoms ∧ afterCircumflex atoms ≠ [] ∧
      (items? (itemAtoms (afterCircumflex atoms))).isSome := by
  cases read : atoms? body with
  | none => simp [ofBody?, read] at plain
  | some atoms => exact ⟨atoms, rfl, (isSome_ofBody?_iff read).1 plain⟩

/-- Only the first atom of a body can be its circumflex. -/
theorem afterCircumflex_append {atoms : List Atom} (nonempty : atoms ≠ []) (more : List Atom) :
    afterCircumflex (atoms ++ more) = afterCircumflex atoms ++ more := by
  obtain ⟨first, rest, rfl⟩ := List.exists_cons_of_ne_nil nonempty
  simp only [List.cons_append, afterCircumflex]
  split <;> rfl

/-- Nothing is combined with a digit. -/
theorem combines_zero (atom : Atom) : atom.combines ⟨'0', true⟩ = false := by
  simp [Atom.combines, Atom.isMark]

/-- Atoms that make no range with an atom before them: they do not start with a minus and an end of a range
behind it. -/
def MakesNoRange : List Atom → Prop
  | minus :: last :: _ => (minus.isMark '-' && !last.isMark '-' && !last.isMark ']') = false
  | _ => True

section Items

variable {atom : Atom} (noOpening : atom.isMark '[' = false) (noClosing : atom.isMark ']' = false)

include noOpening noClosing

/-- An atom with no range behind it is a range of its own. -/
theorem items?_cons {atoms : List Atom} (separate : ∀ next ∈ atoms.head?, atom.combines next = false)
    (noRange : MakesNoRange atoms) :
    items? (atom :: atoms) = (items? atoms).map (⟨atom.char, atom.char⟩ :: ·) := by
  cases atoms with
  | nil => simp [items?, noOpening, noClosing]
  | cons next rest =>
    have noCombination : atom.combines next = false := separate next rfl
    cases rest with
    | nil => simp [items?, noOpening, noClosing, noCombination]
    | cons last rest =>
      have single : (next.isMark '-' && !last.isMark '-' && !last.isMark ']') = false := noRange
      rw [items?, noOpening, noClosing, noCombination, single]
      rfl

/-- Two atoms with a minus between them are a range, unless it runs backwards. -/
theorem items?_cons_range {minus last : Atom} (separate : atom.combines minus = false)
    (isMinus : minus.isMark '-' = true) (noMinus : last.isMark '-' = false)
    (noBracket : last.isMark ']' = false) (rest : List Atom) :
    items? (atom :: minus :: last :: rest) =
      if atom.char ≤ last.char then (items? rest).map (⟨atom.char, last.char⟩ :: ·) else none := by
  simp [items?, noOpening, noClosing, separate, isMinus, noMinus, noBracket]

end Items

/-- How a plain body is taken apart: into single atoms, and into ranges that run forwards. -/
inductive Itemized : List Atom → Text → List CharRange → Prop
  | nil : Itemized [] [] []
  | single {atom : Atom} {atoms : List Atom} {start text : Text} {list : List CharRange}
      (written : Written atom start) (noOpening : atom.isMark '[' = false)
      (noClosing : atom.isMark ']' = false)
      (separate : ∀ next ∈ atoms.head?, atom.combines next = false) (noRange : MakesNoRange atoms)
      (read : atoms? text = some atoms) (others : Itemized atoms text list) :
      Itemized (atom :: atoms) (start ++ text) (⟨atom.char, atom.char⟩ :: list)
  | range {atom last : Atom} {atoms : List Atom} {start lastStart text : Text} {list : List CharRange}
      (written : Written atom start) (noOpening : atom.isMark '[' = false)
      (noClosing : atom.isMark ']' = false) (separate : atom.combines ⟨'-', true⟩ = false)
      (lastWritten : Written last lastStart) (noMinus : last.isMark '-' = false)
      (noBracket : last.isMark ']' = false) (forward : atom.char ≤ last.char)
      (others : Itemized atoms text list) :
      Itemized (atom :: ⟨'-', true⟩ :: last :: atoms) (start ++ '-' :: (lastStart ++ text))
        (⟨atom.char, last.char⟩ :: list)

/-- A body whose atoms have items is taken apart into them. -/
theorem itemized_of_items? {atoms : List Atom} {text : Text} {list : List CharRange}
    (read : atoms? text = some atoms) (items : items? atoms = some list) : Itemized atoms text list := by
  fun_induction items? atoms generalizing text list with
  | case1 =>
    cases items
    rw [eq_nil_of_atoms? read]
    exact .nil
  | case2 | case4 | case6 | case8 => cases items
  | case3 atom noBracket =>
    cases items
    simp only [Bool.or_eq_true, not_or, Bool.not_eq_true] at noBracket
    obtain ⟨start, following, rfl, written, followingRead⟩ := exists_written read
    obtain rfl := eq_nil_of_atoms? followingRead
    exact .single written noBracket.1 noBracket.2 (by simp) trivial followingRead .nil
  | case5 atom next allowed inductionHypothesis =>
    obtain ⟨others, nextItems, rfl⟩ := Option.map_eq_some_iff.1 items
    simp only [Bool.or_eq_true, not_or, Bool.not_eq_true] at allowed
    obtain ⟨⟨noOpening, noClosing⟩, separate⟩ := allowed
    obtain ⟨start, following, rfl, written, followingRead⟩ := exists_written read
    exact .single written noOpening noClosing (by simpa using separate) trivial followingRead
      (inductionHypothesis followingRead nextItems)
  | case7 atom next last rest allowed isRange forward inductionHypothesis =>
    obtain ⟨others, restItems, rfl⟩ := Option.map_eq_some_iff.1 items
    simp only [Bool.or_eq_true, not_or, Bool.not_eq_true] at allowed
    obtain ⟨⟨noOpening, noClosing⟩, separate⟩ := allowed
    simp only [Bool.and_eq_true, Bool.not_eq_true'] at isRange
    obtain ⟨⟨isMinus, noMinus⟩, noBracket⟩ := isRange
    obtain ⟨start, following, rfl, written, followingRead⟩ := exists_written read
    obtain ⟨nextStart, lastText, rfl, nextWritten, lastRead⟩ := exists_written followingRead
    obtain ⟨lastStart, restText, rfl, lastWritten, restRead⟩ := exists_written lastRead
    obtain rfl := eq_of_isMark nextWritten isMinus
    cases nextWritten
    rw [List.singleton_append]
    exact .range written noOpening noClosing separate lastWritten noMinus noBracket forward
      (inductionHypothesis restRead restItems)
  | case9 atom next last rest allowed noRange inductionHypothesis =>
    obtain ⟨others, nextItems, rfl⟩ := Option.map_eq_some_iff.1 items
    simp only [Bool.or_eq_true, not_or, Bool.not_eq_true] at allowed
    obtain ⟨⟨noOpening, noClosing⟩, separate⟩ := allowed
    obtain ⟨start, following, rfl, written, followingRead⟩ := exists_written read
    exact .single written noOpening noClosing (by simpa using separate) (Bool.eq_false_iff.2 noRange)
      followingRead (inductionHypothesis followingRead nextItems)

end CharClass

end ProseTree.Language
