import Mathlib.Data.List.Chain
import ProseTree.Proofs.Language.ClassBody

/-!
# Plain bodies side by side

The bodies of several scripts are joined as texts. Plain bodies make a plain body together where no mark at
a seam is read in another way than in its own body: where no body but the first takes a complement or starts
with a mark that stands for itself only there, none but the last ends in a minus, and no two marks at a seam
combine classes.
-/

namespace ProseTree.Language.CharClass

/-- Two bodies that keep their meaning side by side. -/
def SetApart (left right : Text) : Prop :=
  left.getLast? ≠ some '-' ∧ (∀ mark ∈ ['^', ']', '-'], right.head? ≠ some mark) ∧
    ∀ mark ∈ ['&', '~'], left.getLast? = some mark → right.head? ≠ some mark

instance (left right : Text) : Decidable (SetApart left right) :=
  haveI : Decidable (∀ mark ∈ ['^', ']', '-'], right.head? ≠ some mark) := List.decidableBAll _ _
  haveI : Decidable (∀ mark ∈ ['&', '~'], left.getLast? = some mark → right.head? ≠ some mark) :=
    List.decidableBAll _ _
  inferInstanceAs (Decidable (_ ∧ _ ∧ _))

/-- Only the start of the second body matters at the seam. -/
theorem SetApart.append_right {left right : Text} (apart : SetApart left right) (nonempty : right ≠ [])
    (more : Text) : SetApart left (right ++ more) := by
  obtain ⟨c, rest, rfl⟩ := List.exists_cons_of_ne_nil nonempty
  exact apart

/-- A text starts with the mark that its first atom is. -/
theorem head?_of_isMark {text : Text} {first : Atom} {atoms : List Atom} {mark : Char}
    (read : atoms? text = some (first :: atoms)) (isMark : first.isMark mark = true) :
    text.head? = some mark := by
  obtain ⟨start, rest, rfl, written, -⟩ := exists_written read
  rw [eq_of_isMark written isMark]
  rfl

/-- The last atoms of a text are those of its end. -/
theorem exists_of_atoms?_append {text : Text} {before atoms : List Atom}
    (read : atoms? text = some (before ++ atoms)) :
    ∃ start rest, text = start ++ rest ∧ atoms? rest = some atoms := by
  induction before generalizing text with
  | nil => exact ⟨[], text, rfl, read⟩
  | cons first before inductionHypothesis =>
    obtain ⟨start, following, rfl, -, followingRead⟩ := exists_written read
    obtain ⟨behind, rest, rfl, restRead⟩ := inductionHypothesis followingRead
    exact ⟨start ++ behind, rest, (List.append_assoc ..).symm, restRead⟩

/-- A text ends with the mark that its last atom is. -/
theorem getLast?_of_isMark {text : Text} {before : List Atom} {last : Atom} {mark : Char}
    (read : atoms? text = some (before ++ [last])) (isMark : last.isMark mark = true) :
    text.getLast? = some mark := by
  obtain ⟨start, rest, rfl, restRead⟩ := exists_of_atoms?_append read
  obtain ⟨spelling, nothing, rfl, written, nothingRead⟩ := exists_written restRead
  rw [eq_of_isMark written isMark, eq_nil_of_atoms? nothingRead]
  simp

/-- Atoms behind which others can be set: neither the last one nor the first one of the others is a minus, and
the two combine no classes. -/
structure ItemsApart (atoms more : List Atom) : Prop where
  lastNoMinus : ∀ last ∈ atoms.getLast?, last.isMark '-' = false
  nextNoMinus : ∀ next ∈ more.head?, next.isMark '-' = false
  separate : ∀ last ∈ atoms.getLast?, ∀ next ∈ more.head?, last.combines next = false

/-- Without their first atom, they can still be set there. -/
theorem ItemsApart.tail {first : Atom} {atoms more : List Atom} (apart : ItemsApart (first :: atoms) more) :
    ItemsApart atoms more where
  lastNoMinus last isLast := apart.lastNoMinus last (List.mem_getLast?_cons isLast)
  nextNoMinus := apart.nextNoMinus
  separate last isLast := apart.separate last (List.mem_getLast?_cons isLast)

/-- A range goes on with a minus only. -/
theorem makesNoRange_of_noMinus {atoms : List Atom}
    (noMinus : ∀ first ∈ atoms.head?, first.isMark '-' = false) : MakesNoRange atoms := by
  unfold MakesNoRange
  split
  · rw [noMinus _ rfl]
    rfl
  · trivial

/-- Atoms with items can be set behind each other. -/
theorem isSome_items?_append {atoms more : List Atom} (apart : ItemsApart atoms more)
    (items : (items? atoms).isSome) (moreItems : (items? more).isSome) :
    (items? (atoms ++ more)).isSome := by
  fun_induction items? atoms with
  | case1 => exact moreItems
  | case2 | case4 | case6 | case8 => cases items
  | case3 atom allowed =>
    simp only [Bool.or_eq_true, not_or, Bool.not_eq_true] at allowed
    have noRange := makesNoRange_of_noMinus apart.nextNoMinus
    rw [List.singleton_append, items?_cons allowed.1 allowed.2 (apart.separate atom rfl) noRange,
      Option.isSome_map]
    exact moreItems
  | case5 atom next allowed inductionHypothesis =>
    simp only [Bool.or_eq_true, not_or, Bool.not_eq_true] at allowed
    obtain ⟨⟨noOpening, noClosing⟩, separate⟩ := allowed
    rw [Option.isSome_map] at items
    have noRange : MakesNoRange (next :: more) := by
      refine makesNoRange_of_noMinus ?_
      rintro first ⟨⟩
      exact apart.lastNoMinus next rfl
    rw [List.cons_append, List.singleton_append,
      items?_cons noOpening noClosing (by simpa using separate) noRange, Option.isSome_map]
    exact inductionHypothesis apart.tail items
  | case7 atom next last rest allowed isRange forward inductionHypothesis =>
    simp only [Bool.or_eq_true, not_or, Bool.not_eq_true] at allowed
    obtain ⟨⟨noOpening, noClosing⟩, separate⟩ := allowed
    simp only [Bool.and_eq_true, Bool.not_eq_true'] at isRange
    obtain ⟨⟨isMinus, noMinus⟩, noBracket⟩ := isRange
    rw [Option.isSome_map] at items
    rw [List.cons_append, List.cons_append, List.cons_append,
      items?_cons_range noOpening noClosing separate isMinus noMinus noBracket, if_pos forward,
      Option.isSome_map]
    exact inductionHypothesis apart.tail.tail.tail items
  | case9 atom next last rest allowed noRange inductionHypothesis =>
    simp only [Bool.or_eq_true, not_or, Bool.not_eq_true] at allowed
    obtain ⟨⟨noOpening, noClosing⟩, separate⟩ := allowed
    rw [Option.isSome_map] at items
    have single : MakesNoRange (next :: last :: (rest ++ more)) := Bool.eq_false_iff.2 noRange
    rw [List.cons_append, List.cons_append, List.cons_append,
      items?_cons noOpening noClosing (by simpa using separate) single, Option.isSome_map]
    exact inductionHypothesis apart.tail items

/-- The items of a body stand at its end. -/
theorem itemAtoms_suffix (body : List Atom) : itemAtoms body <:+ body := by
  unfold itemAtoms
  split
  · rename_i bracket rest _ dropped
    have suffix : bracket :: rest <:+ body := dropped ▸ List.dropWhile_suffix _
    split
    · exact (List.suffix_cons bracket rest).trans suffix
    · exact suffix
  · exact List.dropWhile_suffix _

/-- So does a body without its circumflex. -/
theorem afterCircumflex_suffix (atoms : List Atom) : afterCircumflex atoms <:+ atoms := by
  cases atoms with
  | nil => exact List.suffix_refl []
  | cons first rest =>
    rw [afterCircumflex]
    split
    · exact List.suffix_cons first rest
    · exact List.suffix_refl _

/-- Where bodies are set apart, their items are. -/
theorem SetApart.itemsApart {left right : Text} {atoms more : List Atom} (apart : SetApart left right)
    (read : atoms? left = some atoms) (moreRead : atoms? right = some more) :
    ItemsApart (itemAtoms (afterCircumflex atoms)) more := by
  obtain ⟨leftNoMinus, rightPlain, separate⟩ := apart
  have ends : ∀ last ∈ (itemAtoms (afterCircumflex atoms)).getLast?, ∀ mark,
      last.isMark mark = true → left.getLast? = some mark := by
    intro last isLast mark isMark
    obtain ⟨before, same⟩ := List.getLast?_eq_some_iff.1 isLast
    obtain ⟨start, whole⟩ := (itemAtoms_suffix _).trans (afterCircumflex_suffix atoms)
    rw [same, ← List.append_assoc] at whole
    rw [← whole] at read
    exact getLast?_of_isMark read isMark
  have starts : ∀ next ∈ more.head?, ∀ mark, next.isMark mark = true → right.head? = some mark := by
    intro next isNext mark isMark
    obtain ⟨others, rfl⟩ := List.head?_eq_some_iff.1 isNext
    exact head?_of_isMark moreRead isMark
  refine ⟨fun last isLast => ?_, fun next isNext => ?_, fun last isLast next isNext => ?_⟩
  · exact Bool.eq_false_iff.2 fun isMark => leftNoMinus (ends last isLast '-' isMark)
  · exact Bool.eq_false_iff.2 fun isMark => rightPlain '-' (by simp) (starts next isNext '-' isMark)
  · rw [Bool.eq_false_iff]
    intro combines
    obtain ⟨mark, member, both⟩ := List.any_eq_true.1 combines
    rw [Bool.and_eq_true] at both
    have ended := ends last isLast mark both.1
    have started := starts next isNext mark both.2
    by_cases minus : mark = '-'
    · exact leftNoMinus (minus ▸ ended)
    · exact separate mark (by simpa [minus] using member) ended started

/-- Plain bodies that are set apart are one plain body. -/
theorem isSome_ofBody?_append {left right : Text} (plain : (ofBody? left).isSome)
    (rightPlain : (ofBody? right).isSome) (apart : SetApart left right) :
    (ofBody? (left ++ right)).isSome := by
  obtain ⟨atoms, read, nonempty, items⟩ := exists_atoms_of_isSome_ofBody? plain
  obtain ⟨more, moreRead, moreNonempty, moreItems⟩ := exists_atoms_of_isSome_ofBody? rightPlain
  have itemsApart := apart.itemsApart read moreRead
  have noMark : ∀ mark ∈ ['^', ']', '-'], ∀ next ∈ more.head?, next.isMark mark = false := by
    intro mark member next isNext
    obtain ⟨others, rfl⟩ := List.head?_eq_some_iff.1 isNext
    exact Bool.eq_false_iff.2 fun isMark => apart.2.1 mark member (head?_of_isMark moreRead isMark)
  have moreIsItems : itemAtoms (afterCircumflex more) = more := by
    cases more with
    | nil => exact absurd rfl moreNonempty
    | cons first rest =>
      have noCircumflex := noMark '^' (by simp) first rfl
      have noBracket := noMark ']' (by simp) first rfl
      have noMinus := noMark '-' (by simp) first rfl
      simp [afterCircumflex, noCircumflex, itemAtoms_cons noMinus, noBracket]
  rw [moreIsItems] at moreItems
  rw [isSome_ofBody?_iff (atoms?_append read moreRead),
    afterCircumflex_append (by rintro rfl; exact nonempty rfl),
    itemAtoms_append nonempty (noMark '-' (by simp))]
  exact ⟨by simp [nonempty], isSome_items?_append itemsApart items moreItems⟩

/-- Plain bodies each of which is set apart from the next one are together a plain body. -/
theorem isSome_ofBody?_flatten {bodies : List Text} (nonempty : bodies ≠ [])
    (plain : ∀ body ∈ bodies, (ofBody? body).isSome) (apart : bodies.IsChain SetApart) :
    (ofBody? bodies.flatten).isSome := by
  induction bodies with
  | nil => exact absurd rfl nonempty
  | cons body bodies inductionHypothesis =>
    obtain ⟨bodyPlain, othersPlain⟩ := List.forall_mem_cons.1 plain
    cases bodies with
    | nil => simpa using bodyPlain
    | cons next rest =>
      obtain ⟨firstApart, othersApart⟩ := List.isChain_cons_cons.1 apart
      have joined := inductionHypothesis (List.cons_ne_nil next rest) othersPlain othersApart
      have nextNonempty : next ≠ [] := by
        rintro rfl
        exact absurd (othersPlain [] List.mem_cons_self) (by decide)
      exact isSome_ofBody?_append bodyPlain joined (firstApart.append_right nextNonempty rest.flatten)

end ProseTree.Language.CharClass
