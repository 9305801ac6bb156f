import ProseTree.Proofs.Language.ClassBody
import ProseTree.Proofs.Language.SetReading

/-!
# Plain letters

A list of items is read in brackets in the same way as it is read in a plain body, item by item. So
where the digits behind plain letters do not make a plain body, a range from the last letter runs
backwards to the first digit, and no set can be read from the letters and the digits either.
-/

namespace ProseTree.Language

open CharClass

namespace CharSet

/-- An atom at the start of a text is read as its character. -/
theorem primitive?_append [ClassTables] {atom : Atom} {start : Text} (written : Written atom start) (rest : Text) :
    primitive? (start ++ rest) = some (.char atom.char, rest) := by
  cases written with
  | @plain c noBackslash =>
    unfold primitive?
    split
    · rename_i nothing
      cases nothing
    · rename_i same
      cases same
      exact absurd rfl noBackslash
    · rename_i same
      cases same
      rfl
  | @escaped char spelling means => exact Escape.read?_of_escape? (means rest)

/-- An atom that starts with a character other than a backslash is this mark. -/
theorem isMark_of_written {atom : Atom} {start rest : Text} (written : Written atom start)
    {mark : Char} {others : Text} (starts : start ++ rest = mark :: others)
    (noBackslash : mark ≠ '\\') : atom.isMark mark = true := by
  cases written with
  | plain _ =>
    obtain ⟨rfl, -⟩ := List.cons.inj starts
    simp [Atom.isMark]
  | escaped _ => exact absurd (List.cons.inj starts).1.symm noBackslash

/-- An atom that no range follows is one item. -/
theorem item?_single [ClassTables] {atom : Atom} {start : Text} (written : Written atom start) {rest : Text}
    (noRange : ∀ after, rest = '-' :: after → endsBeforeMinus after = true) :
    item? (start ++ rest) = some (single atom.char, rest) := by
  unfold item?
  rw [primitive?_append written]
  simp only [Option.bind_eq_bind, Option.bind_some]
  split
  · rename_i after
    rw [if_pos (noRange after rfl)]
    rfl
  · rfl

/-- Two atoms with a minus between them are one item, unless the range runs backwards. -/
theorem item?_range [ClassTables] {atom last : Atom} {start lastStart : Text} (written : Written atom start)
    (lastWritten : Written last lastStart) (noMinus : last.isMark '-' = false)
    (noBracket : last.isMark ']' = false) (rest : Text) :
    item? (start ++ '-' :: (lastStart ++ rest)) =
      if atom.char ≤ last.char then some (ranges [⟨atom.char, last.char⟩], rest) else none := by
  have goesOn : endsBeforeMinus (lastStart ++ rest) = false := by
    unfold endsBeforeMinus
    split
    · rename_i same
      rw [isMark_of_written lastWritten same (by decide)] at noBracket
      cases noBracket
    · rename_i same
      rw [isMark_of_written lastWritten same (by decide)] at noMinus
      cases noMinus
    · rfl
  unfold item?
  rw [primitive?_append written]
  simp only [Option.bind_eq_bind, Option.bind_some, goesOn, Bool.false_eq_true, if_false,
    primitive?_append lastWritten, range?]
  split <;> rfl

/-- Whether an atom would combine sets with the text behind it. -/
def CombinesWith (atom : Atom) (rest : Text) : Prop :=
  ∃ mark ∈ ['&', '-', '~'], atom.isMark mark = true ∧ rest.head? = some mark

/-- A list goes on with an item where no bracket stands and nothing is combined. -/
theorem startsItem_of_written {atom : Atom} {start rest : Text} (written : Written atom start)
    (noOpening : atom.isMark '[' = false) (noClosing : atom.isMark ']' = false)
    (separate : ¬ CombinesWith atom rest) : startsItem (start ++ rest) = true := by
  cases written with
  | escaped _ => rfl
  | @plain c _ =>
    simp only [Atom.isMark, Bool.true_and, beq_eq_false_iff_ne] at noOpening noClosing
    refine startsItem_cons_iff.2 ⟨noClosing, noOpening, ?_⟩
    rintro ⟨member, starts⟩
    exact separate ⟨c, member, by simp [Atom.isMark], starts⟩

/-- An atom is read as an item of a list. -/
theorem items?_append [ClassTables] {atom : Atom} {start rest : Text} (written : Written atom start)
    (noOpening : atom.isMark '[' = false) (noClosing : atom.isMark ']' = false)
    (separate : ¬ CombinesWith atom rest) (bound : Nat)
    (before : Option (SetOperation × CharSet)) (items : List CharSet) :
    items? (bound + 1) before items (start ++ rest) =
      (item? (start ++ rest)).bind fun (item, after) => items? bound before (item :: items) after :=
  items?_item (startsItem_of_written written noOpening noClosing separate)

/-- Atoms that combine nothing are no half of a combination in a text either. -/
theorem not_combinesWith_of_written {atom next : Atom} {start : Text}
    (separate : atom.combines next = false) (written : Written next start) (rest : Text) :
    ¬ CombinesWith atom (start ++ rest) := by
  rintro ⟨mark, member, isMark, starts⟩
  obtain ⟨others, same⟩ := List.head?_eq_some_iff.1 starts
  have noBackslash : mark ≠ '\\' := by
    rintro rfl
    exact absurd member (by decide)
  have alsoMark := isMark_of_written written same noBackslash
  have combined : atom.combines next = true :=
    List.any_eq_true.2 ⟨mark, member, by rw [isMark, alsoMark]; rfl⟩
  rw [separate] at combined
  cases combined

/-- An atom combines nothing with the text of the atoms behind it, where it combines nothing with the first of
them and no mark that combines stands behind the text. -/
theorem not_combinesWith {atom : Atom} {atoms : List Atom} {text suffix : Text}
    (read : atoms? text = some atoms) (separate : ∀ next ∈ atoms.head?, atom.combines next = false)
    (plain : ∀ mark ∈ ['&', '-', '~'], suffix.head? ≠ some mark) :
    ¬ CombinesWith atom (text ++ suffix) := by
  cases atoms with
  | nil =>
    rw [eq_nil_of_atoms? read]
    rintro ⟨mark, member, -, starts⟩
    exact plain mark member starts
  | cons next atoms =>
    obtain ⟨start, rest, rfl, written, -⟩ := exists_written read
    rw [List.append_assoc]
    exact not_combinesWith_of_written (separate next rfl) written _

/-- A minus that makes no range stands before another minus or before the closing bracket. -/
theorem endsBeforeMinus_of_single {next last : Atom} {start after text : Text}
    (written : Written next start) (lastRead : ∃ atoms, atoms? text = some (last :: atoms))
    (noRange : (next.isMark '-' && !last.isMark '-' && !last.isMark ']') = false)
    (suffix : Text) (starts : start ++ (text ++ suffix) = '-' :: after) :
    endsBeforeMinus after = true := by
  have isMinus := isMark_of_written written starts (by decide)
  obtain ⟨atoms, read⟩ := lastRead
  obtain ⟨lastStart, rest, rfl, lastWritten, -⟩ := exists_written read
  have following : after = lastStart ++ (rest ++ suffix) := by
    cases written with
    | plain _ => simpa using (List.cons.inj starts).2.symm
    | escaped _ => simp [Atom.isMark] at isMinus
  rw [isMinus, Bool.true_and, ← Bool.not_or, Bool.not_eq_false', Bool.or_eq_true] at noRange
  rw [following]
  cases lastWritten with
  | plain _ =>
    simp only [Atom.isMark, Bool.true_and, beq_iff_eq] at noRange
    obtain rfl | rfl := noRange <;> rfl
  | escaped _ => simp [Atom.isMark] at noRange

/-- A single minus. -/
def IsMinus (atoms : List Atom) : Prop :=
  ∃ minus, atoms = [minus] ∧ minus.isMark '-' = true

/-- Atoms that make no range make none with the digits behind them either, unless they are a single minus. -/
theorem makesNoRange_append_digitAtoms {atoms : List Atom} (noRange : MakesNoRange atoms)
    (noMinus : ¬ IsMinus atoms) : MakesNoRange (atoms ++ digitAtoms) := by
  cases atoms with
  | nil => rfl
  | cons next rest =>
    cases rest with
    | nil =>
      have isElse : next.isMark '-' = false :=
        Bool.eq_false_iff.2 fun isMinus => noMinus ⟨next, rfl, isMinus⟩
      change (next.isMark '-' && _ && _) = false
      rw [isElse]
      rfl
    | cons last rest => exact noRange

/-- An atom that makes no range with the plain atoms behind it is one item, whatever stands behind these,
unless they are a single minus. -/
theorem endsBeforeMinus_of_makesNoRange {atoms : List Atom} {text : Text} (read : atoms? text = some atoms)
    (noRange : MakesNoRange atoms) (noMinus : ¬ IsMinus atoms) {suffix : Text}
    (suffixNoMinus : suffix.head? ≠ some '-') :
    ∀ after, text ++ suffix = '-' :: after → endsBeforeMinus after = true := by
  intro after starts
  cases atoms with
  | nil =>
    rw [eq_nil_of_atoms? read] at starts
    exact absurd (congrArg List.head? starts) suffixNoMinus
  | cons next rest =>
    obtain ⟨start, following, rfl, written, followingRead⟩ := exists_written read
    rw [List.append_assoc] at starts
    cases rest with
    | nil => exact absurd ⟨next, rfl, isMark_of_written written starts (by decide)⟩ noMinus
    | cons last rest => exact endsBeforeMinus_of_single written ⟨rest, followingRead⟩ noRange suffix starts

/-- An atom that cannot be set before a minus and the digits would start a range that runs backwards. -/
theorem backward_of_items?_eq_none {atom : Atom} (noOpening : atom.isMark '[' = false)
    (noClosing : atom.isMark ']' = false) {minus : Atom} (separate : atom.combines minus = false)
    (isMinus : minus.isMark '-' = true)
    (fails : CharClass.items? (atom :: minus :: digitAtoms) = none) : ¬ atom.char ≤ '0' := by
  intro forward
  rw [digitAtoms, items?_cons_range noOpening noClosing separate isMinus rfl rfl,
    if_pos forward] at fails
  exact absurd (Option.map_eq_none_iff.1 fails) (by decide)

/-- Letters that end in a minus cannot be set before a digit when the range would run backwards. -/
theorem items?_eq_none_of_backward [ClassTables] {atoms : List Atom} {text : Text} {list : List CharRange}
    (itemized : Itemized atoms text list) (fails : CharClass.items? (atoms ++ digitAtoms) = none)
    (bound : Nat) (before : Option (SetOperation × CharSet)) (items : List CharSet) (tail : Text) :
    items? bound before items (text ++ '0' :: tail) = none := by
  have plain : ∀ mark ∈ ['&', '-', '~'], ('0' :: tail).head? ≠ some mark := by simp
  induction itemized generalizing bound before items with
  | nil => exact absurd fails (by decide)
  | @single atom atoms start text list written noOpening noClosing separate noRange read others
      inductionHypothesis =>
    cases bound with
    | zero => rfl
    | succ bound =>
      rw [List.append_assoc,
        items?_append written noOpening noClosing (not_combinesWith read separate plain)]
      by_cases isMinus : IsMinus atoms
      · -- The minus and the first digit close a range, which has to run backwards.
        obtain ⟨minus, rfl, isMinus⟩ := isMinus
        have backward := backward_of_items?_eq_none noOpening noClosing (separate minus rfl) isMinus fails
        obtain ⟨minusText, nothing, rfl, minusWritten, nothingRead⟩ := exists_written read
        obtain rfl := eq_nil_of_atoms? nothingRead
        have ranged := item?_range written (.plain (c := '0') (by decide)) rfl rfl tail
        rw [if_neg backward] at ranged
        rw [eq_of_isMark minusWritten isMinus]
        exact congrArg (Option.bind · _) ranged
      · have separateBehind : ∀ next ∈ (atoms ++ digitAtoms).head?, atom.combines next = false := by
          cases atoms with
          | nil =>
            rintro next ⟨⟩
            exact combines_zero atom
          | cons next atoms => exact separate
        rw [List.cons_append, items?_cons noOpening noClosing separateBehind
          (makesNoRange_append_digitAtoms noRange isMinus)] at fails
        rw [item?_single written (endsBeforeMinus_of_makesNoRange read noRange isMinus (by simp))]
        exact inductionHypothesis (Option.map_eq_none_iff.1 fails) ..
  | @range atom last atoms start lastStart text list written noOpening noClosing separate lastWritten
      noMinus noBracket forward others inductionHypothesis =>
    cases bound with
    | zero => rfl
    | succ bound =>
      have separateText : ¬ CombinesWith atom ('-' :: (lastStart ++ (text ++ '0' :: tail))) :=
        not_combinesWith_of_written separate (.plain (by decide)) _
      have ranged := item?_range written lastWritten noMinus noBracket (text ++ '0' :: tail)
      rw [if_pos forward] at ranged
      rw [List.cons_append, List.cons_append, List.cons_append,
        items?_cons_range noOpening noClosing separate rfl noMinus noBracket, if_pos forward] at fails
      rw [List.append_assoc, List.cons_append, List.append_assoc,
        items?_append written noOpening noClosing separateText, ranged]
      exact inductionHypothesis (Option.map_eq_none_iff.1 fails) ..

/-- A mark is its character. -/
theorem char_eq_of_isMark {atom : Atom} {mark : Char} (isMark : atom.isMark mark = true) :
    atom.char = mark := by
  simp only [Atom.isMark, Bool.and_eq_true, beq_iff_eq] at isMark
  exact isMark.2

/-- A text starts with a mark only where its first atom is the mark. -/
theorem head?_ne_of_written {atom : Atom} {start : Text} (written : Written atom start) {mark : Char}
    (noMark : atom.isMark mark = false) (noBackslash : mark ≠ '\\') (rest : Text) :
    (start ++ rest).head? ≠ some mark := by
  intro starts
  obtain ⟨others, same⟩ := List.head?_eq_some_iff.1 starts
  rw [isMark_of_written written same noBackslash] at noMark
  cases noMark

/-- The minuses at the start of a body are written as they are. -/
theorem exists_minuses {body : Text} {atoms : List Atom} (read : atoms? body = some atoms) :
    ∃ rest, body = (atoms.takeWhile (·.isMark '-')).map (·.char) ++ rest ∧
      atoms? rest = some (atoms.dropWhile (·.isMark '-')) ∧ rest.head? ≠ some '-' := by
  induction atoms generalizing body with
  | nil =>
    rw [eq_nil_of_atoms? read]
    exact ⟨[], rfl, rfl, by simp⟩
  | cons atom atoms inductionHypothesis =>
    obtain ⟨start, following, rfl, written, followingRead⟩ := exists_written read
    cases isMinus : atom.isMark '-' with
    | true =>
      obtain ⟨rest, rfl, restRead, stops⟩ := inductionHypothesis followingRead
      have minus := eq_of_isMark written isMinus
      have same := char_eq_of_isMark isMinus
      exact ⟨rest, by simp [minus, isMinus, same], by simpa [isMinus] using restRead, stops⟩
    | false =>
      exact ⟨start ++ following, by simp [isMinus], by simpa [isMinus] using read,
        head?_ne_of_written written isMinus (by decide) following⟩

/-- What stands for itself at the start of a list are the leading ranges of its body, and behind it are
the items of the body. -/
theorem exists_opening_eq {body more : Text} {atoms : List Atom} (read : atoms? body = some atoms)
    (nonempty : atoms ≠ []) (noMinus : more.head? ≠ some '-') :
    ∃ rest, atoms? rest = some (itemAtoms atoms) ∧
      opening (body ++ more) = ((leadingRanges atoms).map fun range => ranges [range], rest ++ more) := by
  obtain ⟨rest, same, restRead, stops⟩ := exists_minuses read
  cases minuses : atoms.takeWhile (·.isMark '-') with
  | nil =>
    obtain ⟨first, others, rfl⟩ := List.exists_cons_of_ne_nil nonempty
    have firstNoMinus : first.isMark '-' = false := by
      simpa [List.takeWhile_cons] using minuses
    obtain ⟨start, following, rfl, written, followingRead⟩ := exists_written read
    cases isBracket : first.isMark ']' with
    | true =>
      refine ⟨following, by simpa [itemAtoms_cons firstNoMinus, isBracket] using followingRead, ?_⟩
      rw [eq_of_isMark written isBracket]
      simp [opening_of_bracket, leadingRanges, firstNoMinus, isBracket, single]
    | false =>
      refine ⟨start ++ following, by simpa [itemAtoms_cons firstNoMinus, isBracket] using read, ?_⟩
      rw [List.append_assoc, opening_of_others (head?_ne_of_written written firstNoMinus (by decide) _)
        (head?_ne_of_written written isBracket (by decide) _)]
      simp [leadingRanges, firstNoMinus, isBracket]
  | cons minus others =>
    rw [minuses] at same
    have allMinus : ∀ c ∈ (minus :: others).map (·.char), c = '-' := by
      rw [← minuses]
      intro c member
      obtain ⟨atom, inside, rfl⟩ := List.mem_map.1 member
      exact char_eq_of_isMark (List.all_eq_true.1 List.all_takeWhile atom inside)
    have ended : (rest ++ more).head? ≠ some '-' := by
      cases rest with
      | nil => exact noMinus
      | cons c rest => exact stops
    refine ⟨rest, by rwa [itemAtoms_of_minuses (by simp [minuses])], ?_⟩
    rw [same, List.append_assoc, opening_of_minuses (by simp) allMinus ended]
    simp [leadingRanges, minuses, single]

/-- Where digits make a plain body one that is not plain, no set is read from it either. -/
theorem read?_eq_none_of_backward [ClassTables] {body : Text} (plain : (ofBody? body).isSome)
    (refused : (ofBody? (body ++ "0-9_".toList)).isSome = false) (tail : Text) :
    read? (body ++ "0-9_".toList ++ tail) = none := by
  obtain ⟨atoms, read, nonempty, items⟩ := exists_atoms_of_isSome_ofBody? plain
  have digitsBehind : afterCircumflex (atoms ++ digitAtoms) = afterCircumflex atoms ++ digitAtoms :=
    afterCircumflex_append (by rintro rfl; exact nonempty rfl) digitAtoms
  have noItems : CharClass.items? (itemAtoms (afterCircumflex atoms) ++ digitAtoms) = none := by
    rw [← itemAtoms_append nonempty (by simp [digitAtoms, Atom.isMark]), ← digitsBehind,
      ← Option.not_isSome_iff_eq_none]
    intro someItems
    rw [(isSome_ofBody?_iff (atoms?_append read rfl)).2 ⟨by simp [digitsBehind, nonempty], someItems⟩]
      at refused
    cases refused
  obtain ⟨list, listRead⟩ := Option.isSome_iff_exists.1 items
  have fails : ∀ (bound : Nat) (tail body : Text) (nonempty : afterCircumflex atoms ≠ []),
      atoms? body = some (afterCircumflex atoms) → list? bound (body ++ '0' :: tail) = none := by
    intro bound tail body nonempty read
    have noMinus : ('0' :: tail).head? ≠ some '-' := by simp
    obtain ⟨rest, restRead, opens⟩ := exists_opening_eq read nonempty noMinus
    rw [list?, opens]
    exact items?_eq_none_of_backward (itemized_of_items? restRead listRead) noItems bound none _ tail
  have digits : body ++ "0-9_".toList ++ tail = body ++ '0' :: ("-9_".toList ++ tail) :=
    List.append_assoc ..
  obtain ⟨first, others, rfl⟩ :=
    List.exists_cons_of_ne_nil (l := atoms) (by rintro rfl; exact nonempty rfl)
  obtain ⟨start, following, rfl, written, followingRead⟩ := exists_written read
  rw [digits, read?]
  cases isCircumflex : first.isMark '^' with
  | true =>
    simp only [afterCircumflex, if_pos isCircumflex] at nonempty fails
    rw [eq_of_isMark written isCircumflex, List.singleton_append, List.cons_append, bracket?_circumflex,
      fails _ _ _ nonempty followingRead]
    rfl
  | false =>
    simp only [afterCircumflex, isCircumflex, Bool.false_eq_true, if_false] at nonempty fails
    rw [bracket?_eq, fails _ _ _ nonempty read]
    · rfl
    · rw [List.append_assoc]
      exact head?_ne_of_written written isCircumflex (by decide) _

end CharSet

end ProseTree.Language
