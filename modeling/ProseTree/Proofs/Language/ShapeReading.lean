import ProseTree.Language.Alphabet
import ProseTree.Proofs.Language.PlainSets
import ProseTree.Proofs.Language.ShapeMatching

/-!
# The shapes that written letters spell

The written shapes of letters and words set bodies into brackets, next to the sets of joiners, enclosures
and punctuation characters. Where a body is read up to the bracket behind it, each of these texts is read
part by part, and the shape that it spells is deeper than the set of the body by a fixed number of levels.
-/

namespace ProseTree.Language

attribute [local simp] Shape.depth

variable {tables : ClassTables}

namespace CharSet

/-- The set of some characters. -/
def ofChars (chars : List Char) : CharSet :=
  bracketed (ofList (chars.map single))

/-- A range of one character contains this character only. -/
theorem contains_single_iff (d c : Char) : (single d).contains c = true ↔ c = d := by
  simp only [single, contains, List.any_cons, List.any_nil, Bool.or_false, CharRange.contains,
    Bool.and_eq_true, decide_eq_true_iff]
  constructor
  · rintro ⟨lower, upper⟩
    exact Char.le_antisymm upper lower
  · rintro rfl
    exact ⟨Char.le_refl c, Char.le_refl c⟩

/-- The set of some characters contains these. -/
theorem contains_ofChars (chars : List Char) (c : Char) : (ofChars chars).contains c = chars.contains c := by
  rw [ofChars, contains, contains_ofList, Bool.eq_iff_iff, List.any_eq_true, List.contains_iff_mem]
  constructor
  · rintro ⟨set, member, inside⟩
    obtain ⟨d, charMember, rfl⟩ := List.mem_map.1 member
    rwa [(contains_single_iff d c).1 inside]
  · exact fun member => ⟨single c, List.mem_map_of_mem member, (contains_single_iff c c).2 rfl⟩

/-- The set of some characters has the level of its brackets and the level of its list. -/
theorem depth_ofChars_le (chars : List Char) : (ofChars chars).depth false ≤ 2 := by
  have shallow : ∀ set ∈ chars.map single, set.depth false ≤ 0 := by
    intro set member
    obtain ⟨c, -, rfl⟩ := List.mem_map.1 member
    exact Nat.le_refl 0
  have levels := depth_ofList_le shallow
  rw [ofChars, depth]
  omega

end CharSet

namespace WordShapes

/-- The characters of a set as they are written in brackets. -/
def spelt (chars : List Char) : Text :=
  chars.flatMap fun c => if isSpecial c then ['\\', c] else [c]

/-- A backslash takes the special meaning from a character that has one. -/
theorem escape?_of_isSpecial {c : Char} (special : isSpecial c = true) (more : Text) :
    CharClass.escape? ([c] ++ more) = some (c, more) := by
  have means : ("\\.+*?()|[]\x7b\x7d^$#&-~".toList.all fun c =>
      CharClass.escaped? c == some c && !("xuU".toList.contains c)) = true := by decide
  have escaped := List.all_eq_true.1 means c (List.contains_iff_mem.1 special)
  rw [Bool.and_eq_true, beq_iff_eq, Bool.not_eq_true'] at escaped
  obtain ⟨escaped, noDigits⟩ := escaped
  rw [List.singleton_append, CharClass.escape?, escaped, Option.map_some]
  all_goals
    rintro rfl
    exact absurd noDigits (by decide)

/-- A character is written so that it has no special meaning. -/
theorem exists_written_spelt (c : Char) (chars : List Char) :
    ∃ atom start, atom.char = c ∧ spelt (c :: chars) = start ++ spelt chars ∧
      CharClass.Written atom start ∧
      ∀ mark, isSpecial mark = true → atom.isMark mark = false := by
  cases special : isSpecial c with
  | true =>
    exact ⟨⟨c, false⟩, ['\\', c], rfl, by simp [spelt, special], .escaped (escape?_of_isSpecial special),
      fun mark _ => rfl⟩
  | false =>
    refine ⟨⟨c, true⟩, [c], rfl, by simp [spelt, special], .plain ?_, fun mark isSpecial => ?_⟩
    · rintro rfl
      cases special
    · rw [Bool.eq_false_iff]
      intro isMark
      rw [← CharSet.char_eq_of_isMark isMark, special] at isSpecial
      cases isSpecial

/-- Some written characters do not start with a mark. -/
theorem head?_spelt_cons_ne (c : Char) (chars more : Text) {mark : Char} (special : isSpecial mark = true)
    (noBackslash : mark ≠ '\\') : (spelt (c :: chars) ++ more).head? ≠ some mark := by
  obtain ⟨atom, start, -, same, written, noMarks⟩ := exists_written_spelt c chars
  rw [same, List.append_assoc]
  exact CharSet.head?_ne_of_written written (noMarks mark special) noBackslash _

/-- Written characters are the list of them. -/
theorem lists_spelt (chars : List Char) :
    CharSet.Lists (spelt chars ++ [']']) (chars.map .single) [']'] := by
  induction chars with
  | nil => exact .nil [']']
  | cons c chars inductionHypothesis =>
    obtain ⟨atom, start, rfl, same, written, noMarks⟩ := exists_written_spelt c chars
    rw [same, List.append_assoc]
    refine .item (CharSet.startsItem_of_written written (noMarks '[' rfl) (noMarks ']' rfl) ?_)
      (CharSet.item?_single written ?_) inductionHypothesis
    · rintro ⟨mark, member, isMark, -⟩
      have special : (['&', '-', '~'].all isSpecial) = true := by decide
      rw [noMarks mark (List.all_eq_true.1 special mark member)] at isMark
      cases isMark
    · intro after starts
      cases chars with
      | nil => cases starts
      | cons d chars =>
        have special : isSpecial '-' = true := by decide
        have noMinus := head?_spelt_cons_ne d chars [']'] special (by decide)
        rw [starts] at noMinus
        exact absurd rfl noMinus

/-- Written characters are a list in brackets. -/
theorem isListOf_spelt {chars : List Char} (nonempty : chars ≠ []) :
    CharSet.IsListOf (spelt chars) (chars.map .single) := by
  obtain ⟨c, others, rfl⟩ := List.exists_cons_of_ne_nil nonempty
  refine ⟨?_, (CharSet.bodyLists_iff ?_ ?_).2 (lists_spelt (c :: others))⟩
  · have noCircumflex : (spelt (c :: others) ++ []).head? ≠ some '^' :=
      head?_spelt_cons_ne c others [] rfl (by decide)
    rwa [List.append_nil] at noCircumflex
  · exact head?_spelt_cons_ne c others [']'] rfl (by decide)
  · exact head?_spelt_cons_ne c others [']'] rfl (by decide)

/-- The set of some written characters is read up to its closing bracket. -/
theorem read?_spelt {chars : List Char} (nonempty : chars ≠ []) (after : Text) :
    CharSet.read? (spelt chars ++ ']' :: after) = some (.ofChars chars, after) :=
  (isListOf_spelt nonempty).read?_eq after

end WordShapes

namespace Shape

section Steps

variable {bound groups count : Nat} {parts : List Shape} {rest after : Text}

/-- A set is a part. -/
theorem parts?_set {set : CharSet} (read : CharSet.read? rest = some (set, after)) :
    parts? (bound + 1) groups parts ('[' :: rest) = parts? bound groups (oneOf set :: parts) after := by
  have step : parts? (bound + 1) groups parts ('[' :: rest) =
      (CharSet.read? rest).bind fun read => parts? bound groups (oneOf read.1 :: parts) read.2 := rfl
  rw [step, read, Option.bind_some]

/-- What no question mark follows is repeated as often as possible. -/
theorem reluctance_eq (greedy : rest.head? ≠ some '?') : reluctance rest = (false, rest) := by
  unfold reluctance
  split
  · exact absurd rfl greedy
  · rfl

/-- A mark that repeats the part before it does so as often as possible. -/
theorem parts?_repeated {mark : Char} {least : Nat} {most : Option Nat} {last : Shape}
    (step : parts? (bound + 1) groups (last :: parts) (mark :: rest) =
      parts? bound groups (repeated least most (reluctance rest).1 last :: parts) (reluctance rest).2)
    (greedy : rest.head? ≠ some '?') :
    parts? (bound + 1) groups (last :: parts) (mark :: rest) =
      parts? bound groups (repeated least most false last :: parts) rest := by
  rw [step, reluctance_eq greedy]

/-- A plus repeats the part before it. -/
theorem parts?_plus {last : Shape} (greedy : rest.head? ≠ some '?') :
    parts? (bound + 1) groups (last :: parts) ('+' :: rest) =
      parts? bound groups (repeated 1 none false last :: parts) rest :=
  parts?_repeated rfl greedy

/-- A star repeats the part before it, or leaves it out. -/
theorem parts?_star {last : Shape} (greedy : rest.head? ≠ some '?') :
    parts? (bound + 1) groups (last :: parts) ('*' :: rest) =
      parts? bound groups (repeated 0 none false last :: parts) rest :=
  parts?_repeated rfl greedy

/-- A question mark leaves the part before it out, if need be. -/
theorem parts?_optional {last : Shape} (greedy : rest.head? ≠ some '?') :
    parts? (bound + 1) groups (last :: parts) ('?' :: rest) =
      parts? bound groups (repeated 0 (some 1) false last :: parts) rest :=
  parts?_repeated rfl greedy

/-- Without a bar there is one alternative. -/
theorem alternatives?_eq {shape : Shape} (read : parts? bound groups [] rest = some (shape, count, after))
    (noBar : after.head? ≠ some '|') :
    alternatives? (bound + 1) groups rest = some (shape, count, after) := by
  rw [alternatives?, read]
  simp only [Option.bind_eq_bind, Option.bind_some]
  split
  · exact absurd rfl noBar
  · rfl

/-- Parentheses make a group with the next number. -/
theorem parts?_group {inner : Shape} (plain : rest.head? ≠ some '?')
    (read : parts? bound (groups + 1) [] rest = some (inner, count, ')' :: after)) :
    parts? (bound + 2) groups parts ('(' :: rest) =
      parts? (bound + 1) count (group (some (groups + 1)) inner :: parts) after := by
  rw [parts?, alternatives?_eq read (by simp)]
  · rfl
  all_goals
    intros
    subst rest
    exact plain rfl

/-- Parentheses with a question mark and a colon make a group without a number. -/
theorem parts?_unnumbered {inner : Shape}
    (read : parts? bound groups [] rest = some (inner, count, ')' :: after)) :
    parts? (bound + 2) groups parts ('(' :: '?' :: ':' :: rest) =
      parts? (bound + 1) count (group none inner :: parts) after := by
  have step : parts? (bound + 2) groups parts ('(' :: '?' :: ':' :: rest) =
      (alternatives? (bound + 1) groups rest).bind fun inner =>
        (Text.dropBeginning? ")" inner.2.2).bind fun final =>
          parts? (bound + 1) inner.2.1 (group none inner.1 :: parts) final := rfl
  rw [step, alternatives?_eq read (by simp)]
  rfl

/-- A sequence ends where a group is closed. -/
theorem parts?_closing :
    parts? (bound + 1) groups parts (')' :: rest) =
      some (ofSequence parts.reverse, groups, ')' :: rest) := rfl

end Steps

/-- In a sequence a part may be one level less deep than alone. -/
theorem depth_sequence_le (shape : Shape) :
    shape.depth .sequence ≤ shape.depth .alone ∧ shape.depth .alone ≤ shape.depth .sequence + 1 := by
  cases shape with
  | sequence first second =>
    simp only [depth, if_true, reduceCtorEq, if_false]
    omega
  | _ => simp

/-- A sequence is at most one level deeper than its deepest part. -/
theorem depth_ofSequence_le {parts : List Shape} {levels : Nat}
    (shallow : ∀ part ∈ parts, part.depth .alone ≤ levels) :
    (ofSequence parts).depth .alone ≤ levels + 1 := by
  have inSequence : (ofSequence parts).depth .sequence ≤ levels := by
    fun_induction ofSequence parts with
    | case1 => exact Nat.zero_le levels
    | case2 only => exact Nat.le_trans (depth_sequence_le only).1 (shallow only List.mem_cons_self)
    | case3 first others _ inductionHypothesis =>
      obtain ⟨firstShallow, othersShallow⟩ := List.forall_mem_cons.1 shallow
      have others := inductionHypothesis othersShallow
      simp only [depth, if_true]
      omega
  have levels := (depth_sequence_le (ofSequence parts)).2
  omega

end Shape

namespace WordShapes

open Shape

variable {configuration : Configuration} {letters wordLetters : CharSet}

/-- The shape of a letter. -/
def letterShape (letters : CharSet) : Shape :=
  ofSequence [textStart, oneOf letters, textEnd]

/-- The parts of the shape of a word: a group of letters, and more groups where there are joiners. -/
def groupParts (wordLetters : CharSet) (joiners : List Char) : List Shape :=
  if joiners.isEmpty then [letterGroup wordLetters]
  else [letterGroup wordLetters, joinedGroups wordLetters (.ofChars joiners)]

/-- The shape of a word. -/
def wordShape (wordLetters : CharSet) (joiners : List Char) : Shape :=
  ofSequence (textStart :: (groupParts wordLetters joiners ++ [textEnd]))

/-- The shape of a word and a punctuation character. -/
def punctuatedShape (wordLetters : CharSet) (joiners punctuation : List Char) : Shape :=
  ofSequence [textStart, group (some 1) (ofSequence (groupParts wordLetters joiners)),
    group (some 2) (oneOf (.ofChars punctuation)), textEnd]

/-- The shape of a group that may be missing. -/
def optionalMark (index : Nat) (chars : List Char) : Shape :=
  repeated 0 (some 1) false (group (some index) (oneOf (.ofChars chars)))

/-- The shape of a word between enclosures with a punctuation character, all of which may be missing. -/
def enclosedShape (wordLetters : CharSet) (joiners enclosures punctuation : List Char) : Shape :=
  ofSequence [textStart, optionalMark 1 enclosures,
    group (some 2) (ofSequence (groupParts wordLetters joiners)), optionalMark 3 enclosures,
    optionalMark 4 punctuation, textEnd]

section Levels

variable (wordLetters : CharSet) (joiners enclosures punctuation : List Char)

/-- The groups of a word are a few levels deeper than the set of its letters. -/
theorem depth_groupParts_le : ∀ part ∈ groupParts wordLetters joiners,
    part.depth .alone ≤ max (wordLetters.depth false) 2 + 4 := by
  have joinerLevels := CharSet.depth_ofChars_le joiners
  have pair : ∀ part ∈ [oneOf (.ofChars joiners), letterGroup wordLetters],
      part.depth .alone ≤ max (wordLetters.depth false) 2 + 1 := by
    simp only [List.forall_mem_cons, List.not_mem_nil, false_implies, implies_true, and_true, letterGroup,
      depth]
    omega
  have joined := depth_ofSequence_le pair
  intro part member
  have cases : part = letterGroup wordLetters ∨ part = joinedGroups wordLetters (.ofChars joiners) := by
    unfold groupParts at member
    split at member
    · exact .inl (List.mem_singleton.1 member)
    · simpa using member
  obtain rfl | rfl := cases
  · simp only [letterGroup, depth]
    omega
  · simp only [joinedGroups, depth]
    omega

/-- The levels of the shape of a word. -/
theorem depth_wordShape_le :
    (wordShape wordLetters joiners).depth .alone ≤ max (wordLetters.depth false) 2 + 5 := by
  refine depth_ofSequence_le (List.forall_mem_cons.2 ⟨Nat.zero_le _, ?_⟩)
  rw [List.forall_mem_append]
  exact ⟨depth_groupParts_le wordLetters joiners, by simp⟩

/-- The levels of the shape of a word and a punctuation character. -/
theorem depth_punctuatedShape_le :
    (punctuatedShape wordLetters joiners punctuation).depth .alone ≤
      max (wordLetters.depth false) 2 + 7 := by
  have markLevels := CharSet.depth_ofChars_le punctuation
  have groups := depth_ofSequence_le (depth_groupParts_le wordLetters joiners)
  refine depth_ofSequence_le ?_
  simp only [List.forall_mem_cons, List.not_mem_nil, false_implies, implies_true, and_true, depth]
  omega

/-- The levels of the shape of a word between enclosures with a punctuation character. -/
theorem depth_enclosedShape_le :
    (enclosedShape wordLetters joiners enclosures punctuation).depth .alone ≤
      max (wordLetters.depth false) 2 + 7 := by
  have markLevels := CharSet.depth_ofChars_le punctuation
  have enclosureLevels := CharSet.depth_ofChars_le enclosures
  have groups := depth_ofSequence_le (depth_groupParts_le wordLetters joiners)
  refine depth_ofSequence_le ?_
  simp only [List.forall_mem_cons, List.not_mem_nil, false_implies, implies_true, and_true, optionalMark,
    depth]
  omega

end Levels

/-- The set of characters in brackets is a part. -/
theorem parts?_setText {chars : List Char} (nonempty : chars ≠ []) (bound groups : Nat)
    (parts : List Shape) (rest : Text) :
    parts? (bound + 1) groups parts (setText chars ++ rest) =
      parts? bound groups (oneOf (.ofChars chars) :: parts) rest := by
  have text : setText chars ++ rest = '[' :: (spelt chars ++ ']' :: rest) := by
    simp [setText, spelt]
  rw [text, parts?_set (read?_spelt nonempty rest)]

/-- A body is read up to the bracket behind it. -/
def Spells [ClassTables] (body : Text) (set : CharSet) : Prop :=
  ∀ after, CharSet.read? (body ++ ']' :: after) = some (set, after)

/-- The groups of a word are its parts. -/
theorem exists_parts?_groupsText (spells : Spells configuration.wordLetterBody wordLetters)
    (bound groups : Nat) (parts : List Shape) {rest : Text} (greedy : rest.head? ≠ some '?') :
    ∃ left, bound ≤ left ∧
      parts? (bound + 8) groups parts (groupsText configuration ++ rest) =
        parts? left groups
          ((groupParts wordLetters configuration.lexicon.wordJoiners).reverse ++ parts) rest := by
  cases joiners : configuration.lexicon.wordJoiners with
  | nil =>
    have text : groupsText configuration ++ rest =
        '[' :: (configuration.wordLetterBody ++ ']' :: '+' :: rest) := by
      simp [groupsText, joiners]
    refine ⟨bound + 6, by omega, ?_⟩
    rw [text, parts?_set (spells _), parts?_plus greedy]
    rfl
  | cons joiner others =>
    have text : groupsText configuration ++ rest =
        '[' :: (configuration.wordLetterBody ++ ']' :: '+' :: '(' :: '?' :: ':' ::
          (setText (joiner :: others) ++ '[' :: (configuration.wordLetterBody ++
            ']' :: '+' :: ')' :: '*' :: rest))) := by
      simp [groupsText, joiners]
    have inner : parts? (bound + 4) groups [] (setText (joiner :: others) ++ '[' ::
        (configuration.wordLetterBody ++ ']' :: '+' :: ')' :: '*' :: rest)) =
        some (ofSequence [oneOf (.ofChars (joiner :: others)), letterGroup wordLetters], groups,
          ')' :: '*' :: rest) := by
      rw [parts?_setText (by simp), parts?_set (spells _), parts?_plus (by simp), parts?_closing]
      rfl
    refine ⟨bound + 4, by omega, ?_⟩
    rw [text, parts?_set (spells _), parts?_plus (by simp), parts?_unnumbered inner, parts?_star greedy]
    rfl

/-- The groups of a word in parentheses are one part. -/
theorem parts?_groupsText (spells : Spells configuration.wordLetterBody wordLetters)
    (bound groups : Nat) (parts : List Shape) (rest : Text) :
    parts? (bound + 11) groups parts ('(' :: (groupsText configuration ++ ')' :: rest)) =
      parts? (bound + 10) (groups + 1)
        (group (some (groups + 1))
          (ofSequence (groupParts wordLetters configuration.lexicon.wordJoiners)) :: parts) rest := by
  have greedy : (')' :: rest).head? ≠ some '?' := by simp
  obtain ⟨left, enough, read⟩ := exists_parts?_groupsText spells (bound + 1) (groups + 1) [] greedy
  obtain ⟨less, rfl⟩ : ∃ less, left = less + 1 := ⟨left - 1, by omega⟩
  rw [parts?_closing, List.append_nil, List.reverse_reverse] at read
  refine parts?_group ?_ read
  unfold groupsText
  split <;> simp

/-- A set of characters in parentheses is one part. -/
theorem parts?_markText {chars : List Char} (nonempty : chars ≠ []) (bound groups : Nat)
    (parts : List Shape) (rest : Text) :
    parts? (bound + 4) groups parts ('(' :: (setText chars ++ ')' :: rest)) =
      parts? (bound + 3) (groups + 1) (group (some (groups + 1)) (oneOf (.ofChars chars)) :: parts)
        rest := by
  refine parts?_group (by simp [setText]) ?_
  rw [parts?_setText nonempty, parts?_closing]
  rfl

/-- A set of characters that may be missing is one part. -/
theorem parts?_optionalMark {chars : List Char} (nonempty : chars ≠ []) (bound groups : Nat)
    (parts : List Shape) {rest : Text} (greedy : rest.head? ≠ some '?') :
    parts? (bound + 4) groups parts ('(' :: (setText chars ++ ')' :: '?' :: rest)) =
      parts? (bound + 2) (groups + 1) (optionalMark (groups + 1) chars :: parts) rest := by
  rw [parts?_markText nonempty, parts?_optional greedy]
  rfl

/-- A shape ends with the end of the text. -/
theorem parts?_textEnd (bound groups : Nat) (parts : List Shape) :
    parts? (bound + 2) groups parts ['$'] = some (ofSequence (textEnd :: parts).reverse, groups, []) :=
  rfl

/-- A shape starts with the start of the text. -/
theorem parts?_textStart (bound groups : Nat) (parts : List Shape) (rest : Text) :
    parts? (bound + 1) groups parts ('^' :: rest) = parts? bound groups (textStart :: parts) rest :=
  rfl

/-- A text spells the shape that it is read as, unless the shape is too deep. -/
theorem shape_eq {rule : PatternRule} {text : Text} {parts : Shape} {groups : Nat}
    (read : parts? (2 * text.length + 1) 0 [] text = some (parts, groups, []))
    (shallow : parts.depth .alone ≤ depthLimit) : shape rule text = .ok parts := by
  rw [shape, ofText?, alternatives?_eq read (by simp)]
  simp [shallow]

/-- The written shape of a letter. -/
theorem shape_letterText (spells : Spells configuration.letterBody letters)
    (shallow : letters.depth false + 1 ≤ depthLimit) :
    shape .letter (letterText configuration) = .ok (letterShape letters) := by
  have text : letterText configuration = '^' :: '[' :: (configuration.letterBody ++ ']' :: ['$']) := by
    simp [letterText]
  obtain ⟨bound, enough⟩ : ∃ bound, 2 * (letterText configuration).length + 1 = bound + 4 :=
    ⟨2 * (letterText configuration).length - 3, by simp [text]; omega⟩
  have read : parts? (2 * (letterText configuration).length + 1) 0 [] (letterText configuration) =
      some (letterShape letters, 0, []) := by
    rw [enough, text, parts?_textStart, parts?_set (spells _), parts?_textEnd]
    rfl
  refine shape_eq read (Nat.le_trans (depth_ofSequence_le ?_) shallow)
  simp

/-- The groups of a word take some characters. -/
theorem length_groupsText (configuration : Configuration) : 3 ≤ (groupsText configuration).length := by
  unfold groupsText
  split
  · simp
  · simp
    omega

/-- The written shape of a word. -/
theorem shape_wordText (spells : Spells configuration.wordLetterBody wordLetters)
    (shallow : max (wordLetters.depth false) 2 + 7 ≤ depthLimit) :
    shape .word (wordText configuration) =
      .ok (wordShape wordLetters configuration.lexicon.wordJoiners) := by
  have text : wordText configuration = '^' :: (groupsText configuration ++ ['$']) := by
    simp [wordText]
  have long := length_groupsText configuration
  obtain ⟨bound, enough⟩ : ∃ bound, 2 * (wordText configuration).length + 1 = bound + 2 + 8 + 1 :=
    ⟨2 * (wordText configuration).length - 10, by simp [text]; omega⟩
  have greedy : ['$'].head? ≠ some '?' := by simp
  obtain ⟨left, bounded, groupsRead⟩ :=
    exists_parts?_groupsText spells (bound + 2) 0 [textStart] greedy
  have read : parts? (2 * (wordText configuration).length + 1) 0 [] (wordText configuration) =
      some (wordShape wordLetters configuration.lexicon.wordJoiners, 0, []) := by
    obtain ⟨less, rfl⟩ : ∃ less, left = less + 2 := ⟨left - 2, by omega⟩
    rw [enough, text, parts?_textStart, groupsRead, parts?_textEnd]
    simp [wordShape]
  exact shape_eq read (Nat.le_trans (depth_wordShape_le ..) (by omega))

/-- The written shape of a word and a punctuation character. -/
theorem shape_punctuatedText (spells : Spells configuration.wordLetterBody wordLetters)
    (punctuation : configuration.lexicon.punctuation ≠ [])
    (shallow : max (wordLetters.depth false) 2 + 7 ≤ depthLimit) :
    shape .wordWithPunctuation (punctuatedText configuration) =
      .ok (punctuatedShape wordLetters configuration.lexicon.wordJoiners
        configuration.lexicon.punctuation) := by
  have text : punctuatedText configuration = '^' :: '(' :: (groupsText configuration ++ ')' :: '(' ::
      (setText configuration.lexicon.punctuation ++ ')' :: ['$'])) := by
    simp [punctuatedText]
  obtain ⟨bound, enough⟩ : ∃ bound, 2 * (punctuatedText configuration).length + 1 = bound + 11 + 1 :=
    ⟨2 * (punctuatedText configuration).length - 11, by simp [text]; omega⟩
  have read : parts? (2 * (punctuatedText configuration).length + 1) 0 []
      (punctuatedText configuration) =
      some (punctuatedShape wordLetters configuration.lexicon.wordJoiners
        configuration.lexicon.punctuation, 2, []) := by
    rw [enough, text, parts?_textStart, parts?_groupsText spells, parts?_markText punctuation,
      parts?_textEnd]
    rfl
  exact shape_eq read (Nat.le_trans (depth_punctuatedShape_le ..) shallow)

/-- The written shape of a word between enclosures with a punctuation character. -/
theorem shape_enclosedText (spells : Spells configuration.wordLetterBody wordLetters)
    (enclosures : configuration.enclosures ≠ []) (punctuation : configuration.lexicon.punctuation ≠ [])
    (shallow : max (wordLetters.depth false) 2 + 7 ≤ depthLimit) :
    shape .enclosedWord (enclosedText configuration) =
      .ok (enclosedShape wordLetters configuration.lexicon.wordJoiners configuration.enclosures
        configuration.lexicon.punctuation) := by
  have text : enclosedText configuration = '^' :: '(' :: (setText configuration.enclosures ++ ')' ::
      '?' :: '(' :: (groupsText configuration ++ ')' :: '(' :: (setText configuration.enclosures ++
        ')' :: '?' :: '(' :: (setText configuration.lexicon.punctuation ++ ')' :: '?' :: ['$'])))) := by
    simp [enclosedText]
  obtain ⟨bound, enough⟩ :
      ∃ bound, 2 * (enclosedText configuration).length + 1 = bound + 9 + 4 + 1 :=
    ⟨2 * (enclosedText configuration).length - 13, by simp [text]; omega⟩
  have read : parts? (2 * (enclosedText configuration).length + 1) 0 [] (enclosedText configuration) =
      some (enclosedShape wordLetters configuration.lexicon.wordJoiners configuration.enclosures
        configuration.lexicon.punctuation, 4, []) := by
    rw [enough, text, parts?_textStart, parts?_optionalMark enclosures _ _ _ (by simp),
      parts?_groupsText spells, parts?_optionalMark enclosures _ _ _ (by simp),
      parts?_optionalMark punctuation _ _ _ (by simp), parts?_textEnd]
    rfl
  exact shape_eq read (Nat.le_trans (depth_enclosedShape_le ..) shallow)

end WordShapes

end ProseTree.Language
