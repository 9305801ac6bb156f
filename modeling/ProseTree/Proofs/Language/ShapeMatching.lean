import Mathlib.Computability.Language
import ProseTree.Language.Shape
import ProseTree.Proofs.Language.WordGroups

/-!
# The texts that a shape takes

Most parts of a shape take the texts of a language and go on behind them, whatever is left to do there. A
repetition takes the texts of a star, where each of its rounds takes a character. A shape between the two
ends of the text occurs in the texts that it takes, and where it is one of groups with joiners between
them, these are the words.
-/

namespace ProseTree.Language.Shape

open Computability

/-- The place behind some of the text at a place. -/
def Place.behind (place : Place) (taken rest : Text) : Place :=
  { place with position := place.position + taken.length, rest := rest }

/-- The place behind two texts is the place behind the second one behind the first one. -/
theorem Place.behind_behind (place : Place) (taken rest others final : Text) :
    (place.behind taken rest).behind others final = place.behind (taken ++ others) final := by
  simp [behind, Nat.add_assoc]

/-- A part takes the texts of a language: it succeeds where what is left to do succeeds behind one of
them. -/
def Takes (part : Continuation → Continuation) (texts : Language Char) : Prop :=
  ∀ next place, (part next place).isSome = true ↔
    ∃ taken ∈ texts, ∃ rest, place.rest = taken ++ rest ∧
      (next (place.behind taken rest)).isSome = true

/-- The texts of one character of a set. -/
def oneCharacter (set : CharSet) : Language Char :=
  {text | ∃ c, set.contains c = true ∧ text = [c]}

/-- A set takes one of its characters. -/
theorem takes_oneOf (set : CharSet) : Takes (oneOf set).run (oneCharacter set) := by
  intro next ⟨position, text, groups⟩
  constructor
  · intro found
    cases text with
    | nil => cases found
    | cons c rest =>
      simp only [run] at found
      split at found
      · exact ⟨[c], ⟨c, ‹_›, rfl⟩, rest, rfl, found⟩
      · cases found
  · rintro ⟨_, ⟨c, inside, rfl⟩, rest, rfl, found⟩
    simp only [run, List.singleton_append, inside, if_true]
    exact found

/-- Nothing takes the empty text. -/
theorem takes_id : Takes id 1 := by
  intro next ⟨position, text, groups⟩
  simp [Language.mem_one, Place.behind]

section Composition

variable {first second part : Continuation → Continuation} {firstTexts secondTexts texts : Language Char}

/-- Two parts take the texts of one followed by the texts of the other. -/
theorem Takes.comp (takesFirst : Takes first firstTexts) (takesSecond : Takes second secondTexts) :
    Takes (fun next => first (second next)) (firstTexts * secondTexts) := by
  intro next place
  rw [takesFirst]
  constructor
  · rintro ⟨taken, member, rest, whole, found⟩
    obtain ⟨others, othersMember, final, restWhole, found⟩ := (takesSecond _ _).1 found
    refine ⟨taken ++ others, Language.append_mem_mul member othersMember, final, ?_, ?_⟩
    · rw [whole, List.append_assoc]
      exact congrArg (taken ++ ·) restWhole
    · rwa [Place.behind_behind] at found
  · rintro ⟨_, member, final, whole, found⟩
    obtain ⟨taken, takenMember, others, othersMember, rfl⟩ := Language.mem_mul.1 member
    refine ⟨taken, takenMember, others ++ final, by rw [whole, List.append_assoc], ?_⟩
    rw [takesSecond]
    exact ⟨others, othersMember, final, rfl, (place.behind_behind ..).symm ▸ found⟩

/-- A part that goes on so many times takes a power of its texts. -/
theorem Takes.times (takes : Takes part texts) (count : Nat) :
    Takes (Shape.times part count) (texts ^ count) := by
  induction count with
  | zero => exact pow_zero texts ▸ takes_id
  | succ count inductionHypothesis => exact pow_succ' texts count ▸ takes.comp inductionHypothesis

/-- One more round of a repetition is preferred to its end. -/
theorem upTo_succ (part : Continuation → Continuation) (count : Nat) (next : Continuation)
    (place : Place) :
    upTo part false (count + 1) next place =
      (part (fun reached =>
        if reached.position = place.position then next reached
        else upTo part false count next reached) place).or (next place) := by
  simp [upTo]

/-- A repetition of a part that takes characters goes on as often as it can. -/
theorem Takes.upTo (takes : Takes part texts) (someCharacter : [] ∉ texts) {count : Nat}
    (next : Continuation) {place : Place} (enough : place.rest.length ≤ count) :
    (Shape.upTo part false count next place).isSome = true ↔
      ∃ taken ∈ texts∗, ∃ rest, place.rest = taken ++ rest ∧
        (next (place.behind taken rest)).isSome = true := by
  induction count generalizing place with
  | zero =>
    obtain ⟨position, text, groups⟩ := place
    obtain rfl : text = [] := List.length_eq_zero_iff.1 (Nat.le_zero.1 enough)
    constructor
    · exact fun found => ⟨[], Language.nil_mem_kstar texts, [], rfl, found⟩
    · rintro ⟨taken, -, rest, whole, found⟩
      obtain ⟨rfl, rfl⟩ := List.append_eq_nil_iff.1 whole.symm
      exact found
  | succ count inductionHypothesis =>
    have round : ∀ {taken rest : Text}, taken ∈ texts → place.rest = taken ++ rest →
        ((if (place.behind taken rest).position = place.position then next (place.behind taken rest)
          else Shape.upTo part false count next (place.behind taken rest)).isSome = true ↔
        ∃ others ∈ texts∗, ∃ final, rest = others ++ final ∧
          (next (place.behind (taken ++ others) final)).isSome = true) := by
      intro taken rest member whole
      have positive : taken.length ≠ 0 := by
        rw [Ne, List.length_eq_zero_iff]
        rintro rfl
        exact someCharacter member
      rw [whole, List.length_append] at enough
      have fewer : (place.behind taken rest).rest.length ≤ count := by
        simp only [Place.behind]
        omega
      rw [if_neg (by simpa [Place.behind] using positive), inductionHypothesis fewer]
      simp only [Place.behind_behind]
      exact Iff.rfl
    rw [upTo_succ, Option.isSome_or, Bool.or_eq_true, takes, ← Language.one_add_self_mul_kstar_eq_kstar]
    constructor
    · rintro (⟨taken, member, rest, whole, found⟩ | found)
      · obtain ⟨others, othersMember, final, rfl, ended⟩ := (round member whole).1 found
        refine ⟨taken ++ others, .inr (Language.append_mem_mul member othersMember), final, ?_, ended⟩
        rw [whole, List.append_assoc]
      · exact ⟨[], .inl rfl, place.rest, rfl, found⟩
    · rintro ⟨_, rfl | member, final, whole, found⟩
      · rw [List.nil_append] at whole
        subst whole
        exact .inr found
      · obtain ⟨taken, takenMember, others, othersMember, rfl⟩ := Language.mem_mul.1 member
        rw [List.append_assoc] at whole
        exact .inl ⟨taken, takenMember, others ++ final, whole,
          (round takenMember whole).2 ⟨others, othersMember, final, rfl, found⟩⟩

end Composition

variable {inner : Shape} {texts : Language Char}

/-- A repetition takes a power of the texts of its part, and then a star of them. -/
theorem takes_repeated (takes : Takes inner.run texts) (someCharacter : [] ∉ texts) (least : Nat) :
    Takes (repeated least none false inner).run (texts ^ least * texts∗) := by
  have rounds : Takes (fun next place => upTo inner.run false (roundsLeft least none place) next place)
      texts∗ := fun next place => takes.upTo someCharacter next (Nat.le_succ _)
  exact (takes.times least).comp rounds

/-- A group without a number takes the texts of its part. -/
theorem takes_group (takes : Takes inner.run texts) : Takes (group none inner).run texts :=
  takes

/-- The parts of a sequence are gone through one after the other. -/
theorem run_ofSequence (parts : List Shape) (next : Continuation) :
    (ofSequence parts).run next = parts.foldr (fun part next => part.run next) next := by
  fun_induction ofSequence parts with
  | case1 => rfl
  | case2 only => rfl
  | case3 first others _ inductionHypothesis =>
    rw [List.foldr_cons, ← inductionHypothesis]
    rfl

/-- Two parts of a sequence take the texts of one followed by the texts of the other. -/
theorem takes_ofSequence_pair {first second : Shape} {firstTexts secondTexts : Language Char}
    (takesFirst : Takes first.run firstTexts) (takesSecond : Takes second.run secondTexts) :
    Takes (ofSequence [first, second]).run (firstTexts * secondTexts) :=
  takesFirst.comp takesSecond

/-- A shape that starts with the text is found nowhere behind its start. -/
theorem findFrom_textStart (parts : List Shape) (position : Nat) (text : Text) :
    (ofSequence (textStart :: parts)).findFrom (position + 1) text = none := by
  have fails : ∀ (position : Nat) (text : Text),
      (ofSequence (textStart :: parts)).run some ⟨position + 1, text, []⟩ = none := by
    intro position text
    rw [run_ofSequence]
    rfl
  induction text generalizing position with
  | nil => rw [findFrom, fails]; rfl
  | cons c rest inductionHypothesis => rw [findFrom, fails, inductionHypothesis]; rfl

/-- Between the two ends of the text the parts of a shape have to take all of it. -/
theorem occursIn_iff {parts : List Shape} (takes : Takes (ofSequence parts).run texts) (text : Text) :
    (ofSequence (textStart :: (parts ++ [textEnd]))).occursIn text = true ↔ text ∈ texts := by
  have onlyStart : ((ofSequence (textStart :: (parts ++ [textEnd]))).findFrom 0 text).isSome =
      ((ofSequence parts).run (textEnd.run some) ⟨0, text, []⟩).isSome := by
    have behindStart : (ofSequence (textStart :: (parts ++ [textEnd]))).run some ⟨0, text, []⟩ =
        (ofSequence parts).run (textEnd.run some) ⟨0, text, []⟩ := by
      rw [run_ofSequence, run_ofSequence, List.foldr_cons, List.foldr_append]
      rfl
    unfold findFrom
    cases text with
    | nil => simp [behindStart]
    | cons c rest => simp [behindStart, findFrom_textStart]
  rw [occursIn, find?, Option.isSome_map, onlyStart, takes]
  constructor
  · rintro ⟨taken, member, rest, rfl, found⟩
    cases rest with
    | nil => rwa [List.append_nil]
    | cons c rest => cases found
  · intro member
    exact ⟨text, member, [], by simp, rfl⟩

/-- The shape of a group of letters. -/
def letterGroup (letters : CharSet) : Shape :=
  repeated 1 none false (oneOf letters)

/-- The shape of more groups, each with a joiner in front of it. -/
def joinedGroups (letters joiners : CharSet) : Shape :=
  repeated 0 none false (group none (ofSequence [oneOf joiners, letterGroup letters]))

/-- The groups of letters. -/
def groupTexts (letters : CharSet) : Language Char :=
  {text | text ≠ [] ∧ ∀ c ∈ text, letters.contains c = true}

/-- A set takes no empty text. -/
theorem nil_not_mem_oneCharacter (set : CharSet) : [] ∉ oneCharacter set := by
  rintro ⟨c, -, same⟩
  cases same

/-- Texts of characters of a set are made of such texts of one character each. -/
theorem mem_kstar_oneCharacter {set : CharSet} {text : Text} :
    text ∈ (oneCharacter set)∗ ↔ ∀ c ∈ text, set.contains c = true := by
  rw [Language.mem_kstar]
  constructor
  · rintro ⟨parts, rfl, single⟩ c member
    obtain ⟨part, inside, member⟩ := List.mem_flatten.1 member
    obtain ⟨d, contained, rfl⟩ := single part inside
    rwa [List.mem_singleton.1 member]
  · intro inside
    refine ⟨text.map ([·]), (List.flatMap_singleton' text).symm, fun part member => ?_⟩
    obtain ⟨c, charMember, rfl⟩ := List.mem_map.1 member
    exact ⟨c, inside c charMember, rfl⟩

/-- A group of letters takes the groups of letters. -/
theorem takes_letterGroup (letters : CharSet) : Takes (letterGroup letters).run (groupTexts letters) := by
  have same : oneCharacter letters ^ 1 * (oneCharacter letters)∗ = groupTexts letters := by
    ext text
    rw [pow_one, Language.mem_mul]
    constructor
    · rintro ⟨_, ⟨c, letter, rfl⟩, rest, others, rfl⟩
      exact ⟨List.cons_ne_nil c rest, List.forall_mem_cons.2 ⟨letter, mem_kstar_oneCharacter.1 others⟩⟩
    · rintro ⟨nonempty, inside⟩
      obtain ⟨c, rest, rfl⟩ := List.exists_cons_of_ne_nil nonempty
      obtain ⟨letter, others⟩ := List.forall_mem_cons.1 inside
      exact ⟨[c], ⟨c, letter, rfl⟩, rest, mem_kstar_oneCharacter.2 others, rfl⟩
  exact same ▸ takes_repeated (takes_oneOf letters) (nil_not_mem_oneCharacter letters) 1

/-- More groups are a star of groups with a joiner in front of them. -/
theorem takes_joinedGroups (letters joiners : CharSet) :
    Takes (joinedGroups letters joiners).run (oneCharacter joiners * groupTexts letters)∗ := by
  have someCharacter : [] ∉ oneCharacter joiners * groupTexts letters := by
    rintro ⟨_, ⟨c, -, rfl⟩, rest, -, same⟩
    cases same
  have takes := takes_group (takes_ofSequence_pair (takes_oneOf joiners) (takes_letterGroup letters))
  have stars := takes_repeated takes someCharacter 0
  rwa [pow_zero, one_mul] at stars

/-- Groups with single joiners between them are a group and a star of groups with a joiner in front of
them. -/
theorem mem_mul_kstar_iff {letters joiners : CharSet} {text : Text} :
    text ∈ groupTexts letters * (oneCharacter joiners * groupTexts letters)∗ ↔
      IsGrouped letters.contains joiners.contains text := by
  constructor
  · intro member
    obtain ⟨group, ⟨nonempty, inside⟩, _, star, rfl⟩ := Language.mem_mul.1 member
    obtain ⟨parts, rfl, joined⟩ := Language.mem_kstar.1 star
    clear star member
    induction parts generalizing group with
    | nil => simpa using IsGrouped.last nonempty inside
    | cons part parts inductionHypothesis =>
      obtain ⟨partJoined, othersJoined⟩ := List.forall_mem_cons.1 joined
      obtain ⟨_, ⟨joiner, joins, rfl⟩, next, ⟨nextNonempty, nextInside⟩, rfl⟩ :=
        Language.mem_mul.1 partJoined
      have others := inductionHypothesis next nextNonempty nextInside othersJoined
      simpa using IsGrouped.cons nonempty inside joins others
  · intro grouped
    induction grouped with
    | last nonempty inside =>
      exact Language.mem_mul.2 ⟨_, ⟨nonempty, inside⟩, [], Language.nil_mem_kstar _, by simp⟩
    | @cons group rest joiner nonempty inside joins others inductionHypothesis =>
      obtain ⟨next, nextGroup, behind, star, rfl⟩ := Language.mem_mul.1 inductionHypothesis
      refine Language.mem_mul.2 ⟨group, ⟨nonempty, inside⟩, joiner :: (next ++ behind), ?_, rfl⟩
      have single : [joiner] ∈ oneCharacter joiners := ⟨joiner, joins, rfl⟩
      have joined := Language.append_mem_mul single nextGroup
      exact Set.mem_of_mem_of_subset (Language.append_mem_mul joined star)
        (mul_kstar_le_kstar (a := oneCharacter joiners * groupTexts letters))

end ProseTree.Language.Shape
