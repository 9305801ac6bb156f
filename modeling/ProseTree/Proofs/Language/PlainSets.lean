import ProseTree.Proofs.Language.PlainLetters
import ProseTree.Proofs.Language.SetLists

/-!
# Plain bodies are lists of sets

In brackets a plain body that takes no complement is a list of its ranges. So its class contains what the
set in brackets does.
-/

namespace ProseTree.Language.CharSet

open CharClass

variable {tables : ClassTables}

/-- A closing bracket ends a range that a minus before it would make. -/
theorem endsBeforeMinus_of_closing {atoms : List Atom} {text : Text} (read : atoms? text = some atoms)
    (noRange : MakesNoRange atoms) :
    ∀ after, text ++ [']'] = '-' :: after → endsBeforeMinus after = true := by
  intro after starts
  by_cases isMinus : IsMinus atoms
  · obtain ⟨minus, rfl, isMinus⟩ := isMinus
    obtain ⟨start, nothing, rfl, written, nothingRead⟩ := exists_written read
    rw [eq_of_isMark written isMinus, eq_nil_of_atoms? nothingRead] at starts
    cases starts
    rfl
  · exact endsBeforeMinus_of_makesNoRange read noRange isMinus (by simp) after starts

/-- The items of a plain body are listed one after the other, each as the set of one range. -/
theorem lists_of_itemized {atoms : List Atom} {text : Text} {list : List CharRange}
    (itemized : Itemized atoms text list) :
    Lists (text ++ [']']) (list.map fun range => ranges [range]) [']'] := by
  have plain : ∀ mark ∈ ['&', '-', '~'], [']'].head? ≠ some mark := by simp
  induction itemized with
  | nil => exact .nil [']']
  | single written noOpening noClosing separate noRange read others inductionHypothesis =>
    rw [List.append_assoc]
    have starts := startsItem_of_written written noOpening noClosing (not_combinesWith read separate plain)
    have isItem := item?_single written (endsBeforeMinus_of_closing read noRange)
    exact .item starts isItem inductionHypothesis
  | @range atom last atoms start lastStart text list written noOpening noClosing separate lastWritten
      noMinus noBracket forward others inductionHypothesis =>
    have separateText : ¬ CombinesWith atom ('-' :: (lastStart ++ (text ++ [']']))) :=
      not_combinesWith_of_written separate (.plain (by decide)) _
    have starts := startsItem_of_written written noOpening noClosing separateText
    have isItem := item?_range written lastWritten noMinus noBracket (text ++ [']'])
    rw [if_pos forward] at isItem
    rw [List.append_assoc, List.cons_append, List.append_assoc]
    exact .item starts isItem inductionHypothesis

/-- A body without a circumflex denotes the class of its ranges, if it has any. -/
theorem ranges?_of_ofBody? {body : Text} {atoms : List Atom} {charClass : CharClass}
    (read : atoms? body = some atoms) (denotes : ofBody? body = some charClass)
    (noCircumflex : ∀ first ∈ atoms.head?, first.isMark '^' = false) :
    ranges? atoms = some charClass.ranges ∧ atoms ≠ [] ∧ charClass.isNegated = false := by
  have listed : (atoms.head?.map (·.isMark '^')).getD false = false := by
    cases atoms with
    | nil => rfl
    | cons first rest => exact noCircumflex first rfl
  simp only [ofBody?, read, listed, Option.bind_eq_bind, Option.bind_some, Bool.false_eq_true,
    if_false] at denotes
  obtain ⟨list, rangesRead, someRange⟩ := Option.bind_eq_some_iff.1 denotes
  split at someRange
  · cases someRange
  · rename_i nonempty
    cases someRange
    refine ⟨rangesRead, ?_, rfl⟩
    rintro rfl
    cases rangesRead
    exact nonempty rfl

/-- A plain body without a circumflex lists its ranges. -/
theorem isListOf_of_ofBody? {body : Text} {charClass : CharClass}
    (denotes : ofBody? body = some charClass) (noCircumflex : body.head? ≠ some '^') :
    charClass.isNegated = false ∧ IsListOf body (charClass.ranges.map fun range => ranges [range]) := by
  obtain ⟨atoms, read, -⟩ := exists_atoms_of_isSome_ofBody? (Option.isSome_of_eq_some denotes)
  have noMark : ∀ first ∈ atoms.head?, first.isMark '^' = false := by
    intro first starts
    obtain ⟨rest, rfl⟩ := List.head?_eq_some_iff.1 starts
    obtain ⟨start, following, rfl, written, -⟩ := exists_written read
    rw [Bool.eq_false_iff]
    intro isMark
    rw [eq_of_isMark written isMark] at noCircumflex
    exact noCircumflex rfl
  obtain ⟨rangesRead, nonempty, listed⟩ := ranges?_of_ofBody? read denotes noMark
  rw [ranges?_eq] at rangesRead
  obtain ⟨inner, itemsRead, same⟩ := Option.map_eq_some_iff.1 rangesRead
  have closing : [']'].head? ≠ some '-' := by decide
  obtain ⟨rest, restRead, opens⟩ := exists_opening_eq read nonempty closing
  refine ⟨listed, noCircumflex, inner.map fun range => ranges [range], ?_, ?_⟩
  · rw [opens, ← same, List.map_append]
  · rw [opens]
    exact lists_of_itemized (itemized_of_items? restRead itemsRead)

/-- In brackets a plain body without a circumflex denotes its class. -/
theorem contains_ofList_of_ofBody? {body : Text} {charClass : CharClass} {sets : List CharSet}
    (denotes : ofBody? body = some charClass) (isList : IsListOf body sets) (c : Char) :
    charClass.contains c = (ofList sets).contains c := by
  obtain ⟨listed, again⟩ := isListOf_of_ofBody? denotes isList.noCircumflex
  rw [isList.ofList_eq again, contains_ofList, CharClass.contains, listed, List.any_map]
  simp [Function.comp_def, contains]

end ProseTree.Language.CharSet
