import ProseTree.Proofs.Language.Escapes

/-!
# How much of a text a set takes

A set in brackets is read from the start of a text up to its closing bracket. What stands behind this
bracket does not matter, and neither does the bound of the reading once it exceeds the number of
characters twice. The parts of a set take their characters in the same way, except that a character
is one item only where no range goes on behind it.
-/

namespace ProseTree.Language.CharSet

variable {tables : ClassTables}

/-- A character or an escape takes the characters that spell it. -/
theorem takesStart_primitive? {text after : Text} {escape : Escape}
    (read : primitive? text = some (escape, after)) : TakesStart primitive? text escape after := by
  unfold primitive? at read
  split at read
  · cases read
  · exact (Escape.takesStart_read? read).cons fun _ => rfl
  · cases read
    exact .single fun more => by simp [primitive?]

/-- Only the character behind a minus decides whether it stands for itself. -/
theorem endsBeforeMinus_cons (c : Char) (rest more : Text) :
    endsBeforeMinus (c :: rest) = endsBeforeMinus (c :: more) := by
  unfold endsBeforeMinus
  split <;> split <;> simp_all

/-- Whether a minus at the start of this text makes a range of the character in front of it. -/
def makesRange : Text → Bool
  | '-' :: rest => !endsBeforeMinus rest
  | _ => false

/-- A character that no range goes on behind is one item. -/
theorem item?_of_makesRange_eq_false {text rest : Text} {first : Escape}
    (firstRead : primitive? text = some (first, rest)) (single : makesRange rest = false) :
    item? text = (ofEscape? first).map (·, rest) := by
  unfold item?
  rw [firstRead]
  simp only [Option.bind_eq_bind, Option.bind_some]
  split
  · rename_i behind
    rw [makesRange, Bool.not_eq_false'] at single
    rw [if_pos single]
    cases ofEscape? first <;> rfl
  · cases ofEscape? first <;> rfl

/-- A character with a range behind it goes on to the last character of the range. -/
theorem item?_of_range {text behind : Text} {first : Escape}
    (firstRead : primitive? text = some (first, '-' :: behind))
    (goesOn : endsBeforeMinus behind = false) :
    item? text = (primitive? behind).bind fun (last, final) => (range? first last).map (·, final) := by
  unfold item?
  rw [firstRead]
  simp only [Option.bind_eq_bind, Option.bind_some, goesOn, Bool.false_eq_true, if_false]
  refine congrArg (Option.bind _) (funext fun (last, final) => ?_)
  cases range? first last <;> rfl

/-- An item takes the characters that spell it, where no range goes on behind it. -/
theorem exists_of_item? {text after : Text} {set : CharSet}
    (read : item? text = some (set, after)) :
    ∃ taken, taken ≠ [] ∧ text = taken ++ after ∧
      ∀ more, (makesRange after = false → makesRange more = false) →
        item? (taken ++ more) = some (set, more) := by
  obtain ⟨first, rest, firstRead⟩ : ∃ first rest, primitive? text = some (first, rest) := by
    cases firstRead : primitive? text with
    | none => simp [item?, firstRead] at read
    | some both => exact ⟨both.1, both.2, rfl⟩
  obtain ⟨taken, nonempty, rfl, again⟩ := takesStart_primitive? firstRead
  cases single : makesRange rest with
  | false =>
    rw [item?_of_makesRange_eq_false firstRead single] at read
    obtain ⟨item, means, whole⟩ := Option.map_eq_some_iff.1 read
    cases whole
    refine ⟨taken, nonempty, rfl, fun more alone => ?_⟩
    rw [item?_of_makesRange_eq_false (again more) (alone single), means]
    rfl
  | true =>
    obtain ⟨behind, rfl, goesOn⟩ : ∃ behind, rest = '-' :: behind ∧ endsBeforeMinus behind = false := by
      unfold makesRange at single
      split at single
      · exact ⟨_, rfl, by simpa using single⟩
      · cases single
    rw [item?_of_range firstRead goesOn] at read
    obtain ⟨⟨last, final⟩, lastRead, range⟩ := Option.bind_eq_some_iff.1 read
    obtain ⟨item, means, whole⟩ := Option.map_eq_some_iff.1 range
    cases whole
    obtain ⟨lastTaken, lastNonempty, rfl, lastAgain⟩ := takesStart_primitive? lastRead
    refine ⟨taken ++ '-' :: lastTaken, by simp, by simp, fun more _ => ?_⟩
    have stillGoesOn : endsBeforeMinus (lastTaken ++ more) = false := by
      obtain ⟨d, others, rfl⟩ := List.exists_cons_of_ne_nil lastNonempty
      exact (endsBeforeMinus_cons d ..).trans goesOn
    have firstAgain := again ('-' :: (lastTaken ++ more))
    rw [List.append_assoc, List.cons_append, item?_of_range firstAgain stillGoesOn, lastAgain more]
    simp [means]

/-- A name holds no bracket. -/
theorem noBracket_of_named? {name : Text} {list : List CharRange} (known : named? name = some list) :
    ']' ∉ name := by
  obtain ⟨entry, found, -⟩ := Option.map_eq_some_iff.1 known
  have same := List.find?_some found
  have member := List.mem_of_find?_eq_some found
  rw [beq_iff_eq] at same
  rw [← same]
  clear found same
  revert entry
  decide

/-- The ranges of a name up to the two characters that close it, and what follows these. -/
def namedRanges? (spelt : Text) : Option (List CharRange × Text) :=
  (Text.dropBeginning? ":]" (spelt.drop (spelt.takeWhile (· != ':')).length)).bind fun rest =>
    (named? (spelt.takeWhile (· != ':'))).map (·, rest)

/-- A circumflex in front of a name takes the complement. -/
theorem namedClass?_circumflex (spelt : Text) :
    namedClass? ('^' :: spelt) =
      (namedRanges? spelt).map fun (list, rest) => (negated (ranges list), rest) := by
  simp only [namedClass?, namedRanges?, Option.bind_eq_bind, if_true]
  cases Text.dropBeginning? ":]" (spelt.drop (spelt.takeWhile (· != ':')).length) with
  | none => rfl
  | some rest => cases named? (spelt.takeWhile (· != ':')) <;> rfl

/-- Without a circumflex the whole text spells the name. -/
theorem namedClass?_eq {text : Text} (noCircumflex : text.head? ≠ some '^') :
    namedClass? text = (namedRanges? text).map fun (list, rest) => (ranges list, rest) := by
  simp only [namedClass?, namedRanges?, Option.bind_eq_bind]
  split
  · exact absurd rfl noCircumflex
  · simp only [Bool.false_eq_true, if_false]
    cases Text.dropBeginning? ":]" (text.drop (text.takeWhile (· != ':')).length) with
    | none => rfl
    | some rest => cases named? (text.takeWhile (· != ':')) <;> rfl

/-- A name takes its characters and the two that close it. -/
theorem exists_of_namedRanges? {text after : Text} {list : List CharRange}
    (read : namedRanges? text = some (list, after)) :
    ∃ taken, ']' ∉ taken ∧ text = taken ++ ']' :: after ∧
      ∀ more, namedRanges? (taken ++ ']' :: more) = some (list, more) := by
  obtain ⟨rest, closed, ends⟩ := Option.bind_eq_some_iff.1 read
  obtain ⟨ranges, known, whole⟩ := Option.map_eq_some_iff.1 ends
  cases whole
  have closed : text.drop (text.takeWhile (· != ':')).length = ':' :: ']' :: after :=
    Text.dropBeginning?_eq_some_iff.1 closed
  obtain ⟨cut, again⟩ := Text.exists_of_drop_takeWhile closed
  have noBracket := noBracket_of_named? known
  generalize text.takeWhile (· != ':') = name at *
  refine ⟨name ++ [':'], by simpa using noBracket, by simp [cut], fun more => ?_⟩
  have same := again (']' :: more)
  have rest : name ++ [':'] ++ ']' :: more = name ++ ':' :: ']' :: more := by simp
  rw [namedRanges?, rest, same, known, List.drop_left]
  rfl

/-- A named class takes its name and the two characters that close it. -/
theorem exists_of_namedClass? {text after : Text} {set : CharSet}
    (read : namedClass? text = some (set, after)) :
    ∃ taken, ']' ∉ taken ∧ text = taken ++ ']' :: after ∧
      ∀ more, namedClass? (taken ++ ']' :: more) = some (set, more) := by
  by_cases circumflex : text.head? = some '^'
  · obtain ⟨spelt, rfl⟩ := List.head?_eq_some_iff.1 circumflex
    rw [namedClass?_circumflex] at read
    obtain ⟨⟨list, rest⟩, named, whole⟩ := Option.map_eq_some_iff.1 read
    cases whole
    obtain ⟨taken, noBracket, rfl, again⟩ := exists_of_namedRanges? named
    refine ⟨'^' :: taken, by simpa using noBracket, rfl, fun more => ?_⟩
    rw [List.cons_append, namedClass?_circumflex, again]
    rfl
  · rw [namedClass?_eq circumflex] at read
    obtain ⟨⟨list, rest⟩, named, whole⟩ := Option.map_eq_some_iff.1 read
    cases whole
    obtain ⟨taken, noBracket, rfl, again⟩ := exists_of_namedRanges? named
    refine ⟨taken, noBracket, rfl, fun more => ?_⟩
    rw [namedClass?_eq, again]
    · rfl
    · cases taken with
      | nil => simp
      | cons c taken => exact circumflex

/-- The sets of the minuses, or of the one bracket, that stand for themselves at the start of a list, and
the rest of the list. -/
def opening (body : Text) : List CharSet × Text :=
  if body.head? = some ']' then ([single ']'], body.drop 1)
  else ((body.takeWhile (· == '-')).map single, body.drop (body.takeWhile (· == '-')).length)

/-- A list behind minuses starts with these. -/
theorem opening_of_minuses {minuses rest : Text} (nonempty : minuses ≠ [])
    (allMinus : ∀ c ∈ minuses, c = '-') (ended : rest.head? ≠ some '-') :
    opening (minuses ++ rest) = (minuses.map single, rest) := by
  have inside : ∀ c ∈ minuses, (c == '-') = true := by simpa using allMinus
  have stops : ∀ c ∈ rest.head?, (c == '-') = false := by
    intro c first
    rw [Option.mem_def.1 first] at ended
    simpa using ended
  have noBracket : (minuses ++ rest).head? ≠ some ']' := by
    obtain ⟨minus, others, rfl⟩ := List.exists_cons_of_ne_nil nonempty
    simp [allMinus minus List.mem_cons_self]
  rw [opening, if_neg noBracket, Text.takeWhile_append_of_ended inside stops, List.drop_left]

/-- A list behind a bracket starts with it. -/
theorem opening_of_bracket (rest : Text) : opening (']' :: rest) = ([single ']'], rest) := by
  rfl

/-- Any other list is read from its start on. -/
theorem opening_of_others {body : Text} (noMinus : body.head? ≠ some '-')
    (noBracket : body.head? ≠ some ']') : opening body = ([], body) := by
  rw [opening, if_neg noBracket]
  cases body with
  | nil => rfl
  | cons c rest =>
    have differs : c ≠ '-' := by simpa using noMinus
    simp [differs]

/-- What stands for itself at the start of a list does not depend on what stands behind the next
character, and once it is there not on this character either, unless it is a minus. -/
theorem exists_opening (body : Text) :
    ∃ start, body = start ++ (opening body).2 ∧
      ∀ rest, rest.head? = (opening body).2.head? ∨ start ≠ [] ∧ rest.head? ≠ some '-' →
        opening (start ++ rest) = ((opening body).1, rest) := by
  by_cases minus : body.head? = some '-'
  · have cut : body = body.takeWhile (· == '-') ++ body.dropWhile (· == '-') :=
      List.takeWhile_append_dropWhile.symm
    have nonempty : body.takeWhile (· == '-') ≠ [] := by
      obtain ⟨others, rfl⟩ := List.head?_eq_some_iff.1 minus
      simp
    have allMinus : ∀ c ∈ body.takeWhile (· == '-'), c = '-' := fun c member => by
      simpa using List.all_eq_true.1 (List.all_takeWhile (p := (· == '-')) (l := body)) c member
    have ended : (body.dropWhile (· == '-')).head? ≠ some '-' := by
      intro goesOn
      have stopped := List.head?_dropWhile_not (· == '-') body
      rw [goesOn] at stopped
      simp at stopped
    generalize body.takeWhile (· == '-') = minuses at *
    generalize body.dropWhile (· == '-') = rest at *
    rw [cut, opening_of_minuses nonempty allMinus ended]
    refine ⟨minuses, rfl, fun others stops => opening_of_minuses nonempty allMinus ?_⟩
    obtain same | ⟨-, noMinus⟩ := stops
    · rwa [same]
    · exact noMinus
  · by_cases bracket : body.head? = some ']'
    · obtain ⟨rest, rfl⟩ := List.head?_eq_some_iff.1 bracket
      rw [opening_of_bracket]
      exact ⟨[']'], rfl, fun others _ => opening_of_bracket others⟩
    · rw [opening_of_others minus bracket]
      refine ⟨[], rfl, fun others stops => ?_⟩
      have same := stops.resolve_right fun ⟨nonempty, _⟩ => nonempty rfl
      exact opening_of_others (same ▸ minus) (same ▸ bracket)

/-- Without a minus the bracket is taken that the body starts with. -/
theorem opening_eq_of_bracket {body rest : Text}
    (noMinuses : (body.takeWhile (· == '-')).map single = [])
    (bracket : body.drop (body.takeWhile (· == '-')).length = ']' :: rest) :
    opening body = ([single ']'], rest) := by
  rw [List.map_eq_nil_iff.1 noMinuses, List.length_nil, List.drop_zero] at bracket
  rw [bracket, opening_of_bracket]

/-- Otherwise the minuses are taken. -/
theorem opening_eq_of_minuses {body : Text}
    (noBracket : ∀ rest, (body.takeWhile (· == '-')).map single = [] →
      body.drop (body.takeWhile (· == '-')).length = ']' :: rest → False) :
    opening body =
      ((body.takeWhile (· == '-')).map single, body.drop (body.takeWhile (· == '-')).length) := by
  refine if_neg fun bracket => ?_
  obtain ⟨rest, rfl⟩ := List.head?_eq_some_iff.1 bracket
  exact noBracket rest rfl rfl

/-- The list behind an opening bracket, and what follows its closing bracket. -/
def list? [ClassTables] (bound : Nat) (body : Text) : Option (CharSet × Text) :=
  items? bound none (opening body).1.reverse (opening body).2

/-- A set in brackets is a list, which a circumflex in front of it negates. -/
theorem bracket?_eq_list? (bound : Nat) (text : Text) :
    bracket? (bound + 1) text =
      (list? bound (if text.head? = some '^' then text.drop 1 else text)).map fun (set, final) =>
        (bracketed (if text.head? = some '^' then negated set else set), final) := by
  rw [bracket?, list?]
  simp only [List.length_map, Option.map_eq_bind]
  generalize (if text.head? = some '^' then text.drop 1 else text) = body
  split
  · rename_i noMinuses bracket
    rw [opening_eq_of_bracket noMinuses bracket]
    rfl
  · rename_i noBracket
    rw [opening_eq_of_minuses noBracket]
    rfl

/-- The set behind a bracket and a circumflex. -/
theorem bracket?_circumflex (bound : Nat) (body : Text) :
    bracket? (bound + 1) ('^' :: body) =
      (list? bound body).map fun (set, final) => (bracketed (negated set), final) := by
  rw [bracket?_eq_list?, List.head?_cons]
  rfl

/-- The set behind a bracket without a circumflex. -/
theorem bracket?_eq (bound : Nat) {body : Text} (noCircumflex : body.head? ≠ some '^') :
    bracket? (bound + 1) body = (list? bound body).map fun (set, final) => (bracketed set, final) := by
  rw [bracket?_eq_list?]
  simp only [noCircumflex, if_false]

/-- Whether a list goes on with an item at the start of this text. -/
def startsItem : Text → Bool
  | [] => false
  | c :: rest => c != ']' && c != '[' && !(['&', '-', '~'].contains c && rest.head? == some c)

/-- An item starts with a character that is no bracket and combines nothing with the next one. -/
theorem startsItem_cons_iff {c : Char} {rest : Text} :
    startsItem (c :: rest) = true ↔
      c ≠ ']' ∧ c ≠ '[' ∧ ¬ (c ∈ ['&', '-', '~'] ∧ rest.head? = some c) := by
  rw [startsItem, Bool.and_eq_true, Bool.and_eq_true, bne_iff_ne, bne_iff_ne, and_assoc,
    Bool.not_eq_true', Bool.and_eq_false_iff, List.contains_eq_mem, decide_eq_false_iff_not,
    beq_eq_false_iff_ne, Decidable.not_and_iff_not_or_not]

/-- How two neighbouring marks combine lists. -/
def operation? : Char → Option SetOperation
  | '&' => some .intersection
  | '-' => some .difference
  | '~' => some .symmetricDifference
  | _ => none

/-- What a list can go on with. -/
theorem list_cases (text : Text) :
    text = [] ∨ (∃ rest, text = ']' :: rest) ∨
      (∃ mark operation rest, operation? mark = some operation ∧ text = mark :: mark :: rest) ∨
      (∃ rest, text = '[' :: rest) ∨ startsItem text = true := by
  cases text with
  | nil => exact .inl rfl
  | cons c rest =>
    by_cases closing : c = ']'
    · exact .inr (.inl ⟨rest, by rw [closing]⟩)
    by_cases nested : c = '['
    · exact .inr (.inr (.inr (.inl ⟨rest, by rw [nested]⟩)))
    by_cases combines : c ∈ ['&', '-', '~'] ∧ rest.head? = some c
    · obtain ⟨mark, twice⟩ := combines
      obtain ⟨others, rfl⟩ := List.head?_eq_some_iff.1 twice
      obtain ⟨operation, means⟩ : ∃ operation, operation? c = some operation := by
        simp only [List.mem_cons, List.not_mem_nil, or_false] at mark
        obtain rfl | rfl | rfl := mark <;> exact ⟨_, rfl⟩
      exact .inr (.inr (.inl ⟨c, operation, others, means, rfl⟩))
    · exact .inr (.inr (.inr (.inr (startsItem_cons_iff.2 ⟨closing, nested, combines⟩))))

/-- Behind an opening bracket the text starts with no named class. -/
def IsUnnamed (rest : Text) : Prop :=
  ∀ name, rest = ':' :: name → namedClass? name = none

section Steps

variable {bound : Nat} {before : Option (SetOperation × CharSet)} {items : List CharSet} {rest : Text}

/-- A list ends at its closing bracket. -/
theorem items?_closing :
    items? (bound + 1) before items (']' :: rest) = some (combine before items.reverse, rest) :=
  rfl

/-- Two marks combine the list before them with the list behind them. -/
theorem items?_operation {mark : Char} {operation : SetOperation}
    (means : operation? mark = some operation) :
    items? (bound + 1) before items (mark :: mark :: rest) =
      items? bound (some (operation, combine before items.reverse)) [] rest := by
  unfold operation? at means
  split at means <;> cases means <;> rfl

/-- A bracket and a colon open a named class, or else a set in brackets. -/
theorem items?_colon :
    items? (bound + 1) before items ('[' :: ':' :: rest) =
      match namedClass? rest with
      | some (named, after) => items? bound before (named :: items) after
      | none => (bracket? bound (':' :: rest)).bind fun (inner, after) =>
          items? bound before (inner :: items) after :=
  rfl

/-- A named class stands in a list. -/
theorem items?_named {set : CharSet} {after : Text} (named : namedClass? rest = some (set, after)) :
    items? (bound + 1) before items ('[' :: ':' :: rest) = items? bound before (set :: items) after := by
  rw [items?_colon, named]

/-- A set in brackets stands in a list, where no named class does. -/
theorem items?_nested (unnamed : IsUnnamed rest) :
    items? (bound + 1) before items ('[' :: rest) =
      (bracket? bound rest).bind fun (set, after) => items? bound before (set :: items) after := by
  by_cases named : rest.head? = some ':'
  · obtain ⟨name, rfl⟩ := List.head?_eq_some_iff.1 named
    rw [items?_colon, unnamed name rfl]
  · rw [items?]
    · rfl
    · rintro name rfl
      exact named rfl

/-- An item stands in a list. -/
theorem items?_item {text : Text} (starts : startsItem text = true) :
    items? (bound + 1) before items text =
      (item? text).bind fun (item, after) => items? bound before (item :: items) after := by
  conv => lhs; unfold items?
  split <;> simp_all [startsItem]

end Steps

/-- A name that ends before a bracket is known or unknown whatever stands behind the bracket. -/
theorem namedClass?_eq_none_of_closing {taken after : Text}
    (unnamed : namedClass? (taken ++ ']' :: after) = none) (more : Text) :
    namedClass? (taken ++ ']' :: more) = none := by
  rw [← Option.not_isSome_iff_eq_none, Option.isSome_iff_exists]
  rintro ⟨⟨set, final⟩, named⟩
  obtain ⟨name, noBracket, whole, again⟩ := exists_of_namedClass? named
  -- The name ends at the first bracket, which is the same one in both texts.
  have sameName : ∃ behind, taken ++ ']' :: after = name ++ ']' :: behind := by
    obtain ⟨between, rfl, same⟩ | ⟨between, rfl, same⟩ := List.append_eq_append_iff.1 whole
    · cases between with
      | nil => exact ⟨after, by simp⟩
      | cons c between =>
        obtain ⟨rfl, -⟩ := List.cons.inj same
        simp at noBracket
    · cases between with
      | nil => exact ⟨after, by simp⟩
      | cons c between =>
        obtain ⟨rfl, -⟩ := List.cons.inj same
        exact ⟨between ++ ']' :: after, by simp⟩
  obtain ⟨behind, same⟩ := sameName
  rw [same, again] at unnamed
  cases unnamed

/-- Whether a named class starts before a bracket does not depend on what stands behind the bracket. -/
theorem IsUnnamed.closing {taken after : Text} (unnamed : IsUnnamed (taken ++ ']' :: after))
    (more : Text) : IsUnnamed (taken ++ ']' :: more) := by
  intro name starts
  cases taken with
  | nil => cases starts
  | cons c taken =>
    obtain ⟨rfl, rfl⟩ := List.cons.inj starts
    exact namedClass?_eq_none_of_closing (unnamed _ rfl) _

/-- Whether a range goes on in front of a bracket does not depend on what stands behind the bracket. -/
theorem makesRange_closing (text after more : Text) :
    makesRange (text ++ ']' :: after) = makesRange (text ++ ']' :: more) := by
  cases text with
  | nil => rfl
  | cons c text =>
    by_cases minus : c = '-'
    · subst minus
      cases text with
      | nil => rfl
      | cons d text => exact congrArg (!·) (endsBeforeMinus_cons d ..)
    · simp [makesRange, minus]

/-- Whether an item starts in front of a bracket does not depend on what stands behind the bracket. -/
theorem startsItem_closing {text : Text} (nonempty : text ≠ []) (after more : Text) :
    startsItem (text ++ ']' :: after) = startsItem (text ++ ']' :: more) := by
  obtain ⟨c, text, rfl⟩ := List.exists_cons_of_ne_nil nonempty
  cases text <;> rfl

/-- A set is read from the text up to a closing bracket, and from this text whatever stands behind the
bracket, as soon as the bound exceeds the number of characters twice by some. -/
def IsTaken (read : Nat → Text → Option (CharSet × Text)) (slack : Nat) (text : Text) (set : CharSet)
    (after : Text) : Prop :=
  ∃ taken, text = taken ++ ']' :: after ∧
    ∀ enough, 2 * taken.length + slack ≤ enough → ∀ more,
      read enough (taken ++ ']' :: more) = some (set, more)

/-- With this bound, all that is read is taken up to a closing bracket. -/
def TakesUpToBracket (read : Nat → Text → Option (CharSet × Text)) (slack bound : Nat) : Prop :=
  ∀ {text after : Text} {set : CharSet}, read bound text = some (set, after) →
    IsTaken read slack text set after

section Taking

variable {bound : Nat} {before : Option (SetOperation × CharSet)} {items : List CharSet}
  (lists : ∀ before items, TakesUpToBracket (items? · before items) 1 bound)

include lists

/-- Behind what stands for itself at its start, a set takes what its list takes. -/
theorem isTaken_list {body after : Text} {set : CharSet}
    (read : list? bound body = some (set, after)) : IsTaken list? 1 body set after := by
  obtain ⟨taken, cut, again⟩ := lists _ _ read
  obtain ⟨start, same, opens⟩ := exists_opening body
  refine ⟨start ++ taken, by rw [List.append_assoc, ← cut, ← same], fun enough bounded more => ?_⟩
  rw [List.length_append] at bounded
  have sameStart : (taken ++ ']' :: more).head? = (opening body).2.head? := by
    rw [cut]
    cases taken <;> rfl
  rw [List.append_assoc, list?, opens _ (.inl sameStart)]
  exact again enough (by omega) more

/-- A set in brackets takes the text up to the end of its list. -/
theorem takesUpToBracket_bracket? : TakesUpToBracket bracket? 2 (bound + 1) := by
  intro text after set read
  by_cases circumflex : text.head? = some '^'
  · obtain ⟨body, rfl⟩ := List.head?_eq_some_iff.1 circumflex
    rw [bracket?_circumflex] at read
    obtain ⟨⟨inner, final⟩, innerRead, whole⟩ := Option.map_eq_some_iff.1 read
    cases whole
    obtain ⟨taken, rfl, again⟩ := isTaken_list lists innerRead
    refine ⟨'^' :: taken, rfl, fun enough bounded more => ?_⟩
    rw [List.length_cons] at bounded
    obtain ⟨less, rfl⟩ : ∃ less, enough = less + 1 := ⟨enough - 1, by omega⟩
    rw [List.cons_append, bracket?_circumflex, again less (by omega)]
    rfl
  · rw [bracket?_eq _ circumflex] at read
    obtain ⟨⟨inner, final⟩, innerRead, whole⟩ := Option.map_eq_some_iff.1 read
    cases whole
    obtain ⟨taken, rfl, again⟩ := isTaken_list lists innerRead
    refine ⟨taken, rfl, fun enough bounded more => ?_⟩
    obtain ⟨less, rfl⟩ : ∃ less, enough = less + 1 := ⟨enough - 1, by omega⟩
    rw [bracket?_eq, again less (by omega)]
    · rfl
    · cases taken with
      | nil => simp
      | cons c taken => exact circumflex

/-- A list with a named class takes the name and what the rest of the list takes. -/
theorem isTaken_named {name behind after : Text} {inner set : CharSet}
    (named : namedClass? name = some (inner, behind))
    (read : items? bound before (inner :: items) behind = some (set, after)) :
    IsTaken (items? · before items) 1 ('[' :: ':' :: name) set after := by
  obtain ⟨name, -, rfl, nameAgain⟩ := exists_of_namedClass? named
  obtain ⟨taken, rfl, again⟩ := lists _ _ read
  refine ⟨'[' :: ':' :: (name ++ ']' :: taken), by simp, fun enough bounded more => ?_⟩
  simp only [List.length_cons, List.length_append] at bounded
  obtain ⟨less, rfl⟩ : ∃ less, enough = less + 1 := ⟨enough - 1, by omega⟩
  simp only [List.cons_append, List.append_assoc]
  rw [items?_named (nameAgain _)]
  exact again less (by omega) more

/-- A list with an item takes the item and what the rest of the list takes. -/
theorem isTaken_item {text behind after : Text} {inner set : CharSet}
    (starts : startsItem text = true) (item : item? text = some (inner, behind))
    (read : items? bound before (inner :: items) behind = some (set, after)) :
    IsTaken (items? · before items) 1 text set after := by
  obtain ⟨itemTaken, nonempty, rfl, itemAgain⟩ := exists_of_item? item
  obtain ⟨taken, rfl, again⟩ := lists _ _ read
  refine ⟨itemTaken ++ taken, by simp, fun enough bounded more => ?_⟩
  have positive := List.length_pos_iff.2 nonempty
  rw [List.length_append] at bounded
  obtain ⟨less, rfl⟩ : ∃ less, enough = less + 1 := ⟨enough - 1, by omega⟩
  have alone : makesRange (taken ++ ']' :: after) = false → makesRange (taken ++ ']' :: more) = false :=
    fun alone => (makesRange_closing taken after more).symm.trans alone
  have startsAgain : startsItem (itemTaken ++ taken ++ ']' :: more) = true := by
    rw [startsItem_closing (by simp [nonempty]) more after, List.append_assoc]
    exact starts
  dsimp only
  rw [items?_item startsAgain, List.append_assoc, itemAgain _ alone]
  exact again less (by omega) more

variable (nested : TakesUpToBracket bracket? 2 bound)

include nested

/-- A list with a set in brackets takes the set and what the rest of the list takes. -/
theorem isTaken_nested {rest behind after : Text} {inner set : CharSet}
    (unnamed : IsUnnamed rest)
    (innerRead : bracket? bound rest = some (inner, behind))
    (read : items? bound before (inner :: items) behind = some (set, after)) :
    IsTaken (items? · before items) 1 ('[' :: rest) set after := by
  obtain ⟨innerTaken, rfl, innerAgain⟩ := nested innerRead
  obtain ⟨taken, rfl, again⟩ := lists _ _ read
  refine ⟨'[' :: (innerTaken ++ ']' :: taken), by simp, fun enough bounded more => ?_⟩
  simp only [List.length_cons, List.length_append] at bounded
  obtain ⟨less, rfl⟩ : ∃ less, enough = less + 1 := ⟨enough - 1, by omega⟩
  simp only [List.cons_append, List.append_assoc]
  rw [items?_nested (unnamed.closing _), innerAgain less (by omega)]
  exact again less (by omega) more

/-- A list takes the text up to its closing bracket. -/
theorem takesUpToBracket_items? (before : Option (SetOperation × CharSet)) (items : List CharSet) :
    TakesUpToBracket (items? · before items) 1 (bound + 1) := by
  intro text after set read
  dsimp only at read ⊢
  obtain rfl | ⟨rest, rfl⟩ | ⟨mark, operation, rest, means, rfl⟩ | ⟨rest, rfl⟩ | starts :=
    list_cases text
  · cases read
  · rw [items?_closing] at read
    cases read
    refine ⟨[], rfl, fun enough bounded more => ?_⟩
    obtain ⟨less, rfl⟩ : ∃ less, enough = less + 1 := ⟨enough - 1, by omega⟩
    exact items?_closing
  · rw [items?_operation means] at read
    obtain ⟨taken, rfl, again⟩ := lists _ _ read
    refine ⟨mark :: mark :: taken, rfl, fun enough bounded more => ?_⟩
    simp only [List.length_cons] at bounded
    obtain ⟨less, rfl⟩ : ∃ less, enough = less + 1 := ⟨enough - 1, by omega⟩
    simp only [List.cons_append]
    rw [items?_operation means]
    exact again less (by omega) more
  · by_cases named : ∃ name both, rest = ':' :: name ∧ namedClass? name = some both
    · obtain ⟨name, ⟨inner, behind⟩, rfl, named⟩ := named
      rw [items?_named named] at read
      exact isTaken_named lists named read
    · have unnamed : IsUnnamed rest := by
        rintro name rfl
        exact Option.eq_none_iff_forall_ne_some.2 fun both found => named ⟨name, both, rfl, found⟩
      rw [items?_nested unnamed] at read
      obtain ⟨⟨inner, behind⟩, innerRead, others⟩ := Option.bind_eq_some_iff.1 read
      exact isTaken_nested lists nested unnamed innerRead others
  · rw [items?_item starts] at read
    obtain ⟨⟨item, behind⟩, itemRead, others⟩ := Option.bind_eq_some_iff.1 read
    exact isTaken_item lists starts itemRead others

end Taking

/-- Sets and lists take the text up to their closing bracket. -/
theorem takesUpToBracket (bound : Nat) :
    TakesUpToBracket bracket? 2 bound ∧ ∀ before items, TakesUpToBracket (items? · before items) 1 bound := by
  induction bound with
  | zero =>
    constructor
    · intro text after set read
      cases read
    · intro before items text after set read
      cases read
  | succ bound inductionHypothesis =>
    obtain ⟨nested, lists⟩ := inductionHypothesis
    exact ⟨takesUpToBracket_bracket? lists, takesUpToBracket_items? lists nested⟩

/-- A set takes the text up to its closing bracket, whatever stands behind it. -/
theorem isTaken_bracket? {bound : Nat} {text after : Text} {set : CharSet}
    (read : bracket? bound text = some (set, after)) : IsTaken bracket? 2 text set after :=
  (takesUpToBracket bound).1 read

end ProseTree.Language.CharSet
