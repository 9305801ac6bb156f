import Mathlib.Data.List.Chain
import ProseTree.Proofs.Language.SetReading

/-!
# Lists of sets

A body in brackets that neither takes the complement nor combines lists is a list of sets, each of which is
read where the one before it ends. Where a list ends with its text, so that no range is left open, it
can be set in front of another one: the sets of the second list follow those of the first one, and the
joined body denotes the union.
-/

namespace ProseTree.Language.CharSet

/-- Where a range goes on is decided by the two characters at the start of a text. -/
theorem makesRange_append {text : Text} (nonempty : text ≠ []) (alone : makesRange text = false)
    (more : Text) : makesRange (text ++ more) = false := by
  obtain ⟨c, text, rfl⟩ := List.exists_cons_of_ne_nil nonempty
  by_cases minus : c = '-'
  · subst minus
    cases text with
    | nil => cases alone
    | cons d text => exact (congrArg (!·) (endsBeforeMinus_cons d ..)).trans alone
  · simp [makesRange, minus]

/-- An item starts where it did when the text goes on, unless its one character combines lists with
what follows. -/
theorem startsItem_append {text more : Text} (starts : startsItem text = true)
    (separate : ∀ c, text = [c] → c ∈ ['&', '-', '~'] → more.head? ≠ some c) :
    startsItem (text ++ more) = true := by
  cases text with
  | nil => cases starts
  | cons c text =>
    cases text with
    | nil =>
      obtain ⟨noClosing, noOpening, -⟩ := startsItem_cons_iff.1 starts
      exact startsItem_cons_iff.2 ⟨noClosing, noOpening, fun ⟨mark, twice⟩ => separate c rfl mark twice⟩
    | cons d text => exact starts

/-- Where no minus stands, no range goes on. -/
theorem makesRange_eq_false {text : Text} (noMinus : text.head? ≠ some '-') :
    makesRange text = false := by
  unfold makesRange
  split
  · exact absurd rfl noMinus
  · rfl

/-- The union of a list contains what one of its sets contains. -/
theorem contains_ofList (sets : List CharSet) (c : Char) :
    (ofList sets).contains c = sets.any (·.contains c) := by
  fun_induction ofList sets with
  | case1 => rfl
  | case2 only => simp
  | case3 first others _ inductionHypothesis => simp [contains, inductionHypothesis]

/-- In a list a set may be one level less deep than alone. -/
theorem depth_true_le (set : CharSet) :
    set.depth true ≤ set.depth false ∧ set.depth false ≤ set.depth true + 1 := by
  cases set <;> simp [depth]

/-- A list of some sets is one level deeper alone than behind other sets. -/
theorem depth_ofList_cons_cons (first second : CharSet) (others : List CharSet) :
    (ofList (first :: second :: others)).depth false =
      (ofList (first :: second :: others)).depth true + 1 := by
  simp [ofList, depth]

/-- Behind other sets a list is as deep as its deepest set, or one level less deep. -/
theorem depth_ofList (sets : List CharSet) {levels : Nat} :
    ((∀ set ∈ sets, set.depth false ≤ levels) → (ofList sets).depth true ≤ levels) ∧
      ((ofList sets).depth true ≤ levels → ∀ set ∈ sets, set.depth false ≤ levels + 1) := by
  fun_induction ofList sets with
  | case1 => simp [depth]
  | case2 only =>
    have levels := depth_true_le only
    simp only [List.forall_mem_singleton]
    omega
  | case3 first others _ inductionHypothesis =>
    simp only [List.forall_mem_cons, depth, if_true, Nat.add_zero, Nat.max_le]
    exact ⟨fun ⟨firstShallow, shallow⟩ => ⟨firstShallow, inductionHypothesis.1 shallow⟩,
      fun ⟨firstShallow, shallow⟩ => ⟨Nat.le_succ_of_le firstShallow, inductionHypothesis.2 shallow⟩⟩

/-- The union of a list is at most one level deeper than its deepest set. -/
theorem depth_ofList_le {sets : List CharSet} {levels : Nat}
    (shallow : ∀ set ∈ sets, set.depth false ≤ levels) : (ofList sets).depth false ≤ levels + 1 := by
  have levels := (depth_true_le (ofList sets)).2
  have inList := (depth_ofList sets).1 shallow
  omega

/-- No set of a list is deeper than their union. -/
theorem depth_le_ofList {sets : List CharSet} {set : CharSet} (member : set ∈ sets) :
    set.depth false ≤ (ofList sets).depth false := by
  match sets with
  | [only] =>
    rw [List.mem_singleton.1 member]
    exact Nat.le_refl _
  | first :: second :: others =>
    rw [depth_ofList_cons_cons]
    exact (depth_ofList _).2 (Nat.le_refl _) set member

variable [ClassTables]

/-- The sets of a list, read one after the other from the start of a text on, and what is left of it. -/
inductive Lists : Text → List CharSet → Text → Prop
  | nil (text : Text) : Lists text [] text
  | named {rest after final : Text} {set : CharSet} {sets : List CharSet}
      (named : namedClass? rest = some (set, after)) (others : Lists after sets final) :
      Lists ('[' :: ':' :: rest) (set :: sets) final
  | nested {rest after final : Text} {set : CharSet} {sets : List CharSet}
      (unnamed : IsUnnamed rest) (nested : read? rest = some (set, after)) (others : Lists after sets final) :
      Lists ('[' :: rest) (set :: sets) final
  | item {text after final : Text} {set : CharSet} {sets : List CharSet}
      (starts : startsItem text = true) (item : item? text = some (set, after))
      (others : Lists after sets final) : Lists text (set :: sets) final

namespace Lists

variable {text after final : Text} {sets others : List CharSet}

/-- Nothing is listed by the empty text. -/
theorem eq_nil_of_nil (lists : Lists [] sets final) : sets = [] ∧ final = [] := by
  cases lists with
  | nil => exact ⟨rfl, rfl⟩
  | item starts _ _ => cases starts

/-- Sets that are read behind others are listed behind them. -/
theorem trans (first : Lists text sets after) (second : Lists after others final) :
    Lists text (sets ++ others) final := by
  induction first with
  | nil text => exact second
  | named named _ inductionHypothesis => exact .named named (inductionHypothesis second)
  | nested unnamed nested _ inductionHypothesis => exact .nested unnamed nested (inductionHypothesis second)
  | item starts item _ inductionHypothesis => exact .item starts item (inductionHypothesis second)

/-- The sets of a list are read one by one. -/
theorem items?_eq (lists : Lists text sets final) {bound : Nat} (bounded : 2 * text.length + 1 ≤ bound)
    (before : Option (SetOperation × CharSet)) (items : List CharSet) :
    ∃ enough, 2 * final.length + 1 ≤ enough ∧
      items? bound before items text = items? enough before (sets.reverse ++ items) final := by
  induction lists generalizing bound items with
  | nil text => exact ⟨bound, bounded, rfl⟩
  | @named rest after final set sets named _ inductionHypothesis =>
    obtain ⟨name, -, rfl, -⟩ := exists_of_namedClass? named
    simp only [List.length_cons, List.length_append] at bounded
    obtain ⟨less, rfl⟩ : ∃ less, bound = less + 1 := ⟨bound - 1, by omega⟩
    rw [items?_named named, List.reverse_cons, List.append_assoc]
    exact inductionHypothesis (by omega) (set :: items)
  | @nested rest after final set sets unnamed nested _ inductionHypothesis =>
    obtain ⟨taken, rfl, again⟩ := isTaken_bracket? nested
    simp only [List.length_cons, List.length_append] at bounded
    obtain ⟨less, rfl⟩ : ∃ less, bound = less + 1 := ⟨bound - 1, by omega⟩
    rw [items?_nested unnamed, again less (by omega), List.reverse_cons, List.append_assoc]
    exact inductionHypothesis (by omega) (set :: items)
  | @item text after final set sets starts item _ inductionHypothesis =>
    obtain ⟨taken, nonempty, rfl, -⟩ := exists_of_item? item
    have positive := List.length_pos_iff.2 nonempty
    rw [List.length_append] at bounded
    obtain ⟨less, rfl⟩ : ∃ less, bound = less + 1 := ⟨bound - 1, by omega⟩
    rw [items?_item starts, item, List.reverse_cons, List.append_assoc]
    exact inductionHypothesis (by omega) (set :: items)

/-- A text that is listed up to its end can go on with a text that neither makes a range of its last
character nor combines lists with it. -/
theorem append (lists : Lists text sets final) {more : Text}
    (alone : final = [] → makesRange more = false)
    (separate : final = [] → ∀ last ∈ ['&', '-', '~'], (∃ before, Lists text before [last]) →
      more.head? ≠ some last) :
    Lists (text ++ more) sets (final ++ more) := by
  induction lists with
  | nil text => exact .nil (text ++ more)
  | @named rest after final set sets named others inductionHypothesis =>
    have following := inductionHypothesis alone fun ended last mark ⟨before, reached⟩ =>
      separate ended last mark ⟨_, .named named reached⟩
    obtain ⟨name, -, rfl, again⟩ := exists_of_namedClass? named
    simp only [List.cons_append, List.append_assoc]
    exact .named (again _) following
  | @nested rest after final set sets unnamed nested others inductionHypothesis =>
    have following := inductionHypothesis alone fun ended last mark ⟨before, reached⟩ =>
      separate ended last mark ⟨_, .nested unnamed nested reached⟩
    obtain ⟨taken, rfl, again⟩ := isTaken_bracket? nested
    simp only [List.cons_append, List.append_assoc]
    refine .nested (unnamed.closing _) (again _ ?_ _) following
    simp only [List.length_append, List.length_cons]
    omega
  | @item text after final set sets starts item others inductionHypothesis =>
    have following := inductionHypothesis alone fun ended last mark ⟨before, reached⟩ =>
      separate ended last mark ⟨_, .item starts item reached⟩
    obtain ⟨taken, nonempty, rfl, again⟩ := exists_of_item? item
    have noRange : makesRange after = false → makesRange (after ++ more) = false := by
      intro noRange
      by_cases nothing : after = []
      · subst nothing
        exact alone others.eq_nil_of_nil.2
      · exact makesRange_append nothing noRange more
    have startsAgain : startsItem (taken ++ after ++ more) = true := by
      refine startsItem_append starts fun c single mark => ?_
      have nothing : after = [] := by
        have length := congrArg List.length single
        have positive := List.length_pos_iff.2 nonempty
        rw [List.length_append, List.length_singleton] at length
        exact List.length_eq_zero_iff.1 (by omega)
      subst nothing
      exact separate others.eq_nil_of_nil.2 c mark ⟨[], single ▸ .nil _⟩
    refine .item startsAgain ?_ following
    rw [List.append_assoc]
    exact again _ noRange

end Lists

/-- A body lists the sets that stand for themselves at its start and then those of its list. -/
def BodyLists (body : Text) (sets : List CharSet) (final : Text) : Prop :=
  ∃ inner, sets = (opening body).1 ++ inner ∧ Lists (opening body).2 inner final

/-- Where nothing stands for itself at the start, the body is a list of items. -/
theorem bodyLists_iff {body final : Text} {sets : List CharSet} (noMinus : body.head? ≠ some '-')
    (noBracket : body.head? ≠ some ']') : BodyLists body sets final ↔ Lists body sets final := by
  simp [BodyLists, opening_of_others noMinus noBracket]

/-- Whether a list can go on with a text: the text makes no range of the last character of the body, and
combines nothing with it. -/
structure GoesOnInto (body more : Text) : Prop where
  noMinus : more.head? ≠ some '-'
  separate : ∀ last ∈ ['&', '~'], (∃ sets, BodyLists body sets [last]) → more.head? ≠ some last

/-- Where neither the text nor the body has such a mark at the seam, the list goes on. -/
theorem GoesOnInto.of_noMark {body more : Text} (noMark : ∀ first ∈ more.head?, first ∉ ['-', '&', '~']) :
    GoesOnInto body more where
  noMinus starts := noMark '-' starts (by decide)
  separate last mark _ starts := noMark last starts (List.mem_cons_of_mem _ mark)

/-- A body lists the same sets when the text goes on. -/
theorem BodyLists.append {body final more : Text} {sets : List CharSet}
    (lists : BodyLists body sets final) (nonempty : body ≠ [])
    (goesOn : final = [] → GoesOnInto body more) : BodyLists (body ++ more) sets (final ++ more) := by
  obtain ⟨inner, rfl, lists⟩ := lists
  obtain ⟨start, same, opens⟩ := exists_opening body
  have opened : opening (start ++ ((opening body).2 ++ more)) =
      ((opening body).1, (opening body).2 ++ more) := by
    apply opens
    cases rest : (opening body).2 with
    | nil =>
      rw [rest] at lists same
      rw [List.append_nil] at same
      exact .inr ⟨same ▸ nonempty, (goesOn lists.eq_nil_of_nil.2).noMinus⟩
    | cons c rest => exact .inl rfl
  have whole : body ++ more = start ++ ((opening body).2 ++ more) := by
    rw [← List.append_assoc, ← same]
  refine ⟨inner, by rw [whole, opened], ?_⟩
  rw [whole, opened]
  refine lists.append (fun ended => makesRange_eq_false (goesOn ended).noMinus) ?_
  rintro ended last mark ⟨before, reached⟩
  by_cases minus : last = '-'
  · rw [minus]
    exact (goesOn ended).noMinus
  · exact (goesOn ended).separate last (by simpa [minus] using mark) ⟨_, before, rfl, reached⟩

/-- A body in brackets that neither takes the complement nor combines lists, and the sets that it lists. -/
structure IsListOf (body : Text) (sets : List CharSet) : Prop where
  noCircumflex : body.head? ≠ some '^'
  lists : BodyLists (body ++ [']']) sets [']']

namespace IsListOf

variable {body : Text} {sets : List CharSet}

/-- A list is not empty. -/
theorem ne_nil (isList : IsListOf body sets) : body ≠ [] := by
  rintro rfl
  obtain ⟨inner, -, lists⟩ := isList.lists
  cases lists.eq_nil_of_nil.2

/-- The sets of a list in brackets are read up to the bracket behind them. -/
theorem bodyLists (isList : IsListOf body sets) (after : Text) :
    BodyLists (body ++ ']' :: after) sets (']' :: after) := by
  have goesOn : BodyLists (body ++ [']'] ++ after) sets ([']'] ++ after) :=
    isList.lists.append (by simp) (by simp)
  rwa [List.append_assoc] at goesOn

/-- A list in brackets is the union of its sets. -/
theorem read?_eq (isList : IsListOf body sets) (after : Text) :
    read? (body ++ ']' :: after) = some (bracketed (ofList sets), after) := by
  have noCircumflex : (body ++ ']' :: after).head? ≠ some '^' := by
    obtain ⟨c, rest, rfl⟩ := List.exists_cons_of_ne_nil isList.ne_nil
    exact isList.noCircumflex
  obtain ⟨inner, rfl, lists⟩ := isList.bodyLists after
  obtain ⟨start, same, -⟩ := exists_opening (body ++ ']' :: after)
  have shorter := List.IsSuffix.length_le ⟨start, same.symm⟩
  have bounded : 2 * (opening (body ++ ']' :: after)).2.length + 1 ≤
      2 * (body ++ ']' :: after).length + 1 := by omega
  obtain ⟨enough, left, read⟩ :=
    lists.items?_eq bounded none (opening (body ++ ']' :: after)).1.reverse
  obtain ⟨less, rfl⟩ : ∃ less, enough = less + 1 := ⟨enough - 1, by omega⟩
  rw [read?, bracket?_eq _ noCircumflex, list?, read, items?_closing]
  simp [combine]

/-- A body lists the sets of one union only. -/
theorem ofList_eq {others : List CharSet} (isList : IsListOf body sets) (again : IsListOf body others) :
    ofList sets = ofList others := by
  have same := (isList.read?_eq []).symm.trans (again.read?_eq [])
  simpa using same

end IsListOf

/-- A list that ends with its body, so that more can be listed behind it. -/
structure Extensible (body : Text) (sets : List CharSet) : Prop where
  nonempty : body ≠ []
  noCircumflex : body.head? ≠ some '^'
  lists : BodyLists body sets []

namespace Extensible

variable {body more final : Text} {sets others : List CharSet}

/-- A list goes on with the sets of a text that starts with an item. -/
theorem bodyLists_append (extensible : Extensible body sets) (goesOn : GoesOnInto body more)
    (noBracket : more.head? ≠ some ']') (lists : BodyLists more others final) :
    BodyLists (body ++ more) (sets ++ others) final := by
  obtain ⟨inner, rfl, start⟩ := extensible.lists.append extensible.nonempty fun _ => goesOn
  have following := (bodyLists_iff goesOn.noMinus noBracket).1 lists
  exact ⟨inner ++ others, List.append_assoc .., start.trans following⟩

/-- A list goes on with the sets of a list that starts with an item, and both end in one bracket. -/
theorem isListOf_append (extensible : Extensible body sets) (goesOn : GoesOnInto body more)
    (noBracket : more.head? ≠ some ']') (isList : IsListOf more others) :
    IsListOf (body ++ more) (sets ++ others) where
  noCircumflex := by
    obtain ⟨c, rest, rfl⟩ := List.exists_cons_of_ne_nil extensible.nonempty
    exact extensible.noCircumflex
  lists := by
    obtain ⟨c, rest, rfl⟩ := List.exists_cons_of_ne_nil isList.ne_nil
    rw [List.append_assoc]
    exact extensible.bodyLists_append ⟨goesOn.noMinus, goesOn.separate⟩ noBracket isList.lists

/-- A list in brackets. -/
theorem isListOf (extensible : Extensible body sets) : IsListOf body sets where
  noCircumflex := extensible.noCircumflex
  lists := extensible.lists.append extensible.nonempty fun _ => .of_noMark (by simp)

end Extensible

/-- Two lists that keep their meaning when they are joined: the second one can be listed behind the first
one, and neither its own start nor the characters at the seam are read in another way there. -/
structure BodiesApart (left right : Text) : Prop extends GoesOnInto left right where
  extensible : ∃ sets, Extensible left sets
  noBracket : right.head? ≠ some ']'

/-- Only the start of the second list matters at the seam. -/
theorem BodiesApart.append_right {left right : Text} (apart : BodiesApart left right)
    (nonempty : right ≠ []) (more : Text) : BodiesApart left (right ++ more) := by
  obtain ⟨c, rest, rfl⟩ := List.exists_cons_of_ne_nil nonempty
  exact ⟨⟨apart.noMinus, apart.separate⟩, apart.extensible, apart.noBracket⟩

/-- A list in brackets with few levels. -/
structure ListsUpTo (levels : Nat) (body : Text) (sets : List CharSet) : Prop
    extends IsListOf body sets where
  shallow : (ofList sets).depth false ≤ levels

/-- More levels are left to a list than it needs. -/
theorem ListsUpTo.mono {few levels : Nat} {body : Text} {sets : List CharSet}
    (lists : ListsUpTo few body sets) (fewer : few ≤ levels) : ListsUpTo levels body sets :=
  ⟨lists.toIsListOf, Nat.le_trans lists.shallow fewer⟩

/-- What one way to list a body contains, every way to list it contains. -/
theorem ListsUpTo.contains_iff {levels : Nat} {body : Text} {sets : List CharSet}
    (lists : ListsUpTo levels body sets) (c : Char) :
    (∃ listed, ListsUpTo levels body listed ∧ (ofList listed).contains c = true) ↔
      (ofList sets).contains c = true := by
  constructor
  · rintro ⟨listed, again, inside⟩
    rwa [lists.toIsListOf.ofList_eq again.toIsListOf]
  · exact fun inside => ⟨sets, lists, inside⟩

/-- Lists stay apart when more is set behind the last one. -/
theorem isChain_append_last {bodies : List Text} {last : Text} (nonempty : last ≠ []) (more : Text)
    (apart : (bodies ++ [last]).IsChain BodiesApart) : (bodies ++ [last ++ more]).IsChain BodiesApart := by
  rw [List.isChain_append] at apart ⊢
  refine ⟨apart.1, List.isChain_singleton _, ?_⟩
  rintro body isLast _ ⟨⟩
  exact (apart.2.2 body isLast last rfl).append_right nonempty more

/-- Lists each of which is set apart from the next one are together a list of all their sets. -/
theorem exists_isListOf_flatten {bodies : List Text} {levels : Nat} (nonempty : bodies ≠ [])
    (lists : ∀ body ∈ bodies, ∃ sets, ListsUpTo levels body sets) (apart : bodies.IsChain BodiesApart) :
    ∃ sets, IsListOf bodies.flatten sets ∧ (∀ set ∈ sets, set.depth false ≤ levels) ∧
      ∀ c, (ofList sets).contains c = true ↔
        ∃ body ∈ bodies, ∃ listed, ListsUpTo levels body listed ∧
          (ofList listed).contains c = true := by
  induction bodies with
  | nil => exact absurd rfl nonempty
  | cons body bodies inductionHypothesis =>
    obtain ⟨⟨listed, isList⟩, othersListed⟩ := List.forall_mem_cons.1 lists
    cases bodies with
    | nil =>
      refine ⟨listed, by simpa using isList.toIsListOf, ?_, ?_⟩
      · exact fun set member => Nat.le_trans (depth_le_ofList member) isList.shallow
      · exact fun c => by simpa using (isList.contains_iff c).symm
    | cons next rest =>
      obtain ⟨firstApart, othersApart⟩ := List.isChain_cons_cons.1 apart
      obtain ⟨others, isOthers, othersShallow, othersContain⟩ :=
        inductionHypothesis (List.cons_ne_nil next rest) othersListed othersApart
      obtain ⟨nextSets, nextList⟩ := othersListed next List.mem_cons_self
      have allApart := firstApart.append_right nextList.ne_nil rest.flatten
      obtain ⟨sets, extensible⟩ := allApart.extensible
      have same := isList.toIsListOf.ofList_eq extensible.isListOf
      refine ⟨sets ++ others, ?joined, ?shallow, fun c => ?contains⟩
      case joined =>
        exact extensible.isListOf_append allApart.toGoesOnInto allApart.noBracket isOthers
      case shallow =>
        rw [List.forall_mem_append]
        refine ⟨fun set member => Nat.le_trans (depth_le_ofList member) ?_, othersShallow⟩
        rw [← same]
        exact isList.shallow
      case contains =>
        rw [contains_ofList, List.any_append, Bool.or_eq_true, ← contains_ofList, ← contains_ofList,
          ← same, ← isList.contains_iff, othersContain]
        simp only [List.exists_mem_cons_iff]

/-- Lists each of which is set apart from the next one are together the union of all of them, at most one
level deeper. -/
theorem exists_listsUpTo_flatten {bodies : List Text} {levels : Nat} (nonempty : bodies ≠ [])
    (lists : ∀ body ∈ bodies, ∃ sets, ListsUpTo levels body sets) (apart : bodies.IsChain BodiesApart) :
    ∃ sets, ListsUpTo (levels + 1) bodies.flatten sets ∧
      ∀ c, (ofList sets).contains c = true ↔
        ∃ body ∈ bodies, ∃ listed, ListsUpTo levels body listed ∧
          (ofList listed).contains c = true := by
  obtain ⟨sets, isList, shallow, contains⟩ := exists_isListOf_flatten nonempty lists apart
  exact ⟨sets, ⟨isList, depth_ofList_le shallow⟩, contains⟩

end ProseTree.Language.CharSet
