import ProseTree.Proofs.Language.Words
import ProseTree.Proofs.Text.Cutting

/-!
# Reading a decorated word in one way

A word starts and ends with a word letter. Where no word letter is an enclosure or a punctuation
character, the word in a decorated word is found by its first and its last letter; where no enclosure is
a punctuation character either, the marks around it are told apart. So a decorated word is read in one
way only, and the preferred reading is this one.
-/

namespace ProseTree.Language

namespace Grammar

variable {grammar : Grammar} {letters wordLetters : CharClass}

section Words

variable {text : Text}

/-- The rest of a word is made of word letters and joiners. -/
theorem letter_or_joiner_of_continuesWord {afterLetter : Bool}
    (continues : grammar.continuesWord wordLetters afterLetter text = true) :
    ∀ c ∈ text, wordLetters.contains c = true ∨ grammar.wordJoiners.contains c = true := by
  induction text generalizing afterLetter with
  | nil => simp
  | cons c rest inductionHypothesis =>
    rw [continuesWord] at continues
    split at continues
    · exact List.forall_mem_cons.2 ⟨.inl ‹_›, inductionHypothesis continues⟩
    · simp only [Bool.and_eq_true] at continues
      exact List.forall_mem_cons.2 ⟨.inr continues.1.2, inductionHypothesis continues.2⟩

/-- The rest of a word ends with a word letter, or there is none behind a word letter. -/
theorem letter_getLast?_of_continuesWord {afterLetter : Bool}
    (continues : grammar.continuesWord wordLetters afterLetter text = true) :
    ∀ c ∈ text.getLast?, wordLetters.contains c = true := by
  induction text generalizing afterLetter with
  | nil => simp
  | cons c rest inductionHypothesis =>
    rw [continuesWord] at continues
    cases rest with
    | nil =>
      intro d final
      cases final
      split at continues
      · assumption
      · simp [continuesWord] at continues
    | cons d rest =>
      rw [List.getLast?_cons_cons]
      split at continues
      · exact inductionHypothesis continues
      · exact inductionHypothesis (Bool.and_eq_true_iff.1 continues).2

variable (classes : grammar.alphabet = .classes letters wordLetters) (isWord : grammar.isWord text = true)

include classes isWord

/-- A word is made of word letters and joiners. -/
theorem letter_or_joiner_of_isWord :
    ∀ c ∈ text, wordLetters.contains c = true ∨ grammar.wordJoiners.contains c = true := by
  rw [Grammar.isWord, classes] at isWord
  exact letter_or_joiner_of_continuesWord isWord

/-- A word ends with a word letter. -/
theorem letter_getLast?_of_isWord : ∀ c ∈ text.getLast?, wordLetters.contains c = true := by
  rw [Grammar.isWord, classes] at isWord
  exact letter_getLast?_of_continuesWord isWord

/-- A word starts with a word letter. -/
theorem exists_letter_of_isWord : ∃ c rest, text = c :: rest ∧ wordLetters.contains c = true := by
  rw [Grammar.isWord, classes] at isWord
  cases text with
  | nil => cases isWord
  | cons c rest =>
    dsimp only at isWord
    rw [continuesWord] at isWord
    split at isWord
    · exact ⟨c, rest, rfl, ‹_›⟩
    · simp at isWord

end Words

/-- By classes, a grammar with enclosures reads decorated words by its classes. -/
theorem decoratedWord?_eq_enclosedWord? (classes : grammar.alphabet = .classes letters wordLetters)
    (enclosures : grammar.enclosures ≠ []) (text : Text) :
    grammar.decoratedWord? text = grammar.enclosedWord? text := by
  simp [decoratedWord?, classes, enclosures]

/-- Word letters, enclosures and punctuation characters are apart from each other. -/
structure SetsDecorationApart (grammar : Grammar) (wordLetters : CharClass) : Prop where
  enclosure : ∀ c, wordLetters.contains c = true → grammar.isEnclosure c = false
  punctuation : ∀ c, wordLetters.contains c = true → grammar.punctuation.contains c = false
  noPunctuation : ∀ c, grammar.isEnclosure c = true → grammar.punctuation.contains c = false

end Grammar

/-- How a word is written with optional characters around it. -/
@[ext]
structure WordSpelling (grammar : Grammar) where
  opening : Option Char
  word : Text
  closing : Option Char
  trailing : Option Char
  isWord : grammar.isWord word = true
  opens : ∀ c ∈ opening, grammar.isEnclosure c = true
  closes : ∀ c ∈ closing, grammar.isEnclosure c = true
  trails : ∀ c ∈ trailing, grammar.punctuation.contains c = true

namespace WordSpelling

open Grammar

variable {grammar : Grammar} {letters wordLetters : CharClass}

/-- The characters behind the word. -/
def ending (spelling : WordSpelling grammar) : Text :=
  spelling.closing.toList ++ spelling.trailing.toList

/-- The text of a word with the characters around it. -/
def text (spelling : WordSpelling grammar) : Text :=
  spelling.opening.toList ++ (spelling.word ++ spelling.ending)

/-- The decorated word that is written. -/
def decorated (spelling : WordSpelling grammar) : DecoratedWord :=
  ⟨spelling.opening.map ([·]), spelling.word, spelling.closing.map ([·]), spelling.trailing.map ([·])⟩

/-- What is written can be read. -/
theorem readFrom (spelling : WordSpelling grammar) : spelling.decorated.ReadFrom grammar spelling.text where
  whole := by
    obtain ⟨opening, word, closing, trailing⟩ := spelling
    cases opening <;> cases closing <;> cases trailing <;>
      simp [decorated, DecoratedWord.text, text, ending]
  isWord := spelling.isWord
  opening := by
    intro mark member
    obtain ⟨c, inside, rfl⟩ := Option.map_eq_some_iff.1 member
    exact ⟨c, rfl, spelling.opens c inside⟩
  closing := by
    intro mark member
    obtain ⟨c, inside, rfl⟩ := Option.map_eq_some_iff.1 member
    exact ⟨c, rfl, spelling.closes c inside⟩
  trailing := by
    intro mark member
    obtain ⟨c, inside, rfl⟩ := Option.map_eq_some_iff.1 member
    exact ⟨c, rfl, spelling.trails c inside⟩

/-- The mark that is there is one character of its class. -/
theorem exists_char_of_mark {inClass : Char → Bool} {mark : Option Text}
    (single : ∀ text ∈ mark, ∃ c, text = [c] ∧ inClass c = true) :
    ∃ char : Option Char, mark = char.map ([·]) ∧ ∀ c ∈ char, inClass c = true := by
  cases mark with
  | none => exact ⟨none, rfl, by simp⟩
  | some text =>
    obtain ⟨c, rfl, inside⟩ := single text rfl
    exact ⟨some c, rfl, by simpa using inside⟩

/-- What can be read is written. -/
theorem exists_of_readFrom {source : Text} {decorated : DecoratedWord}
    (readFrom : decorated.ReadFrom grammar source) :
    ∃ spelling : WordSpelling grammar, spelling.text = source ∧ spelling.decorated = decorated := by
  obtain ⟨opening, word, closing, trailing⟩ := decorated
  obtain ⟨opening, rfl, opens⟩ := exists_char_of_mark readFrom.opening
  obtain ⟨closing, rfl, closes⟩ := exists_char_of_mark readFrom.closing
  obtain ⟨trailing, rfl, trails⟩ := exists_char_of_mark readFrom.trailing
  let spelling : WordSpelling grammar :=
    ⟨opening, word, closing, trailing, readFrom.isWord, opens, closes, trails⟩
  refine ⟨spelling, ?_, rfl⟩
  rw [← spelling.readFrom.whole, ← readFrom.whole]
  rfl

/-- An optional character is known from the list of it. -/
theorem toList_inj {left right : Option Char} (same : left.toList = right.toList) : left = right := by
  cases left <;> cases right <;> simp_all

section Unique

variable (classes : grammar.alphabet = .classes letters wordLetters)
  (apart : grammar.SetsDecorationApart wordLetters)

/-- Behind a word that ends with a character of a class, and in front of characters outside this class,
there is one place only. -/
theorem eq_of_append_eq_append {inClass : Char → Bool} {word other marks more : Text}
    (wordEnds : ∀ c ∈ word.getLast?, inClass c = true) (marksOutside : ∀ c ∈ marks, inClass c = false)
    (otherEnds : ∀ c ∈ other.getLast?, inClass c = true) (moreOutside : ∀ c ∈ more, inClass c = false)
    (same : word ++ marks = other ++ more) : word = other ∧ marks = more := by
  have taken : ∀ {body behind : Text}, (∀ c ∈ body.getLast?, inClass c = true) →
      (∀ c ∈ behind, inClass c = false) →
      (body ++ behind).reverse.takeWhile (fun c => !inClass c) = behind.reverse := by
    intro body behind ends outside
    rw [List.reverse_append]
    apply Text.takeWhile_append_of_ended
    · simpa using outside
    · simpa using ends
  have reversed : marks.reverse = more.reverse := by
    rw [← taken wordEnds marksOutside, same, taken otherEnds moreOutside]
  have found : marks = more := List.reverse_inj.1 reversed
  rw [found] at same
  exact ⟨List.append_cancel_right same, found⟩

include apart

/-- The characters behind a word are no word letters. -/
theorem noLetter_of_mem_ending (spelling : WordSpelling grammar) :
    ∀ c ∈ spelling.ending, wordLetters.contains c = false := by
  intro c member
  rw [← Bool.not_eq_true]
  intro letter
  obtain closing | trailing := List.mem_append.1 member
  · have enclosure := spelling.closes c (Option.mem_toList.1 closing)
    rw [apart.enclosure c letter] at enclosure
    cases enclosure
  · have punctuation := spelling.trails c (Option.mem_toList.1 trailing)
    rw [apart.punctuation c letter] at punctuation
    cases punctuation

/-- A closing character is told from a trailing one. -/
theorem closing_eq_none {left right : WordSpelling grammar} (same : left.ending = right.ending)
    (unclosed : left.closing = none) : right.closing = none := by
  cases closing : right.closing with
  | none => rfl
  | some c =>
    have trailing : left.trailing = some c := by
      simp only [ending, unclosed, closing, Option.toList_none, List.nil_append] at same
      cases trailing : left.trailing with
      | none =>
        rw [trailing] at same
        cases same
      | some d =>
        rw [trailing] at same
        rw [(List.cons.inj same).1]
    have punctuation := left.trails c trailing
    rw [apart.noPunctuation c (right.closes c closing)] at punctuation
    cases punctuation

/-- The characters behind a word are told apart. -/
theorem ending_inj {left right : WordSpelling grammar} (same : left.ending = right.ending) :
    left.closing = right.closing ∧ left.trailing = right.trailing := by
  have closing : left.closing = right.closing := by
    cases leftClosing : left.closing with
    | none => exact (closing_eq_none apart same leftClosing).symm
    | some c =>
      cases rightClosing : right.closing with
      | none =>
        rw [closing_eq_none apart same.symm rightClosing] at leftClosing
        cases leftClosing
      | some d =>
        simp only [ending, leftClosing, rightClosing, Option.toList_some] at same
        rw [(List.cons.inj same).1]
  unfold ending at same
  rw [closing] at same
  exact ⟨closing, toList_inj (List.append_cancel_left same)⟩

include classes

/-- An opening character is told from the start of a word. -/
theorem opening_eq_none {left right : WordSpelling grammar} (same : left.text = right.text)
    (unopened : left.opening = none) : right.opening = none := by
  cases opening : right.opening with
  | none => rfl
  | some c =>
    obtain ⟨d, rest, starts, letter⟩ := exists_letter_of_isWord classes left.isWord
    simp only [text, unopened, opening, starts, Option.toList_none, Option.toList_some,
      List.nil_append, List.cons_append] at same
    have enclosure := right.opens c opening
    rw [← (List.cons.inj same).1, apart.enclosure d letter] at enclosure
    cases enclosure

/-- What stands in front of a word is told from it. -/
theorem opening_eq {left right : WordSpelling grammar} (same : left.text = right.text) :
    left.opening = right.opening := by
  cases leftOpening : left.opening with
  | none => exact (opening_eq_none classes apart same leftOpening).symm
  | some c =>
    cases rightOpening : right.opening with
    | none =>
      rw [opening_eq_none classes apart same.symm rightOpening] at leftOpening
      cases leftOpening
    | some d =>
      simp only [text, leftOpening, rightOpening, Option.toList_some] at same
      rw [(List.cons.inj same).1]

/-- A word is written in one way only with given characters around it. -/
theorem text_inj {left right : WordSpelling grammar} (same : left.text = right.text) : left = right := by
  have opening := opening_eq classes apart same
  unfold text at same
  rw [opening] at same
  obtain ⟨word, ending⟩ := eq_of_append_eq_append
    (letter_getLast?_of_isWord classes left.isWord) (noLetter_of_mem_ending apart left)
    (letter_getLast?_of_isWord classes right.isWord) (noLetter_of_mem_ending apart right)
    (List.append_cancel_left same)
  obtain ⟨closing, trailing⟩ := ending_inj apart ending
  exact WordSpelling.ext opening word closing trailing

end Unique

section Preferred

/-- The characters behind a word are one of the ways to take characters from the end of the text. -/
theorem mem_endings (spelling : WordSpelling grammar) :
    (spelling.word, spelling.closing.map ([·]), spelling.trailing.map ([·])) ∈
      grammar.endings (spelling.word ++ spelling.ending) := by
  obtain ⟨opening, word, closing, trailing, isWord, opens, closes, trails⟩ := spelling
  simp only [ending, endings]
  cases closing with
  | none =>
    cases trailing with
    | none => simp
    | some d =>
      have punctuation : d ∈ grammar.punctuation := List.contains_iff_mem.1 (trails d rfl)
      simp [List.getLast?_append, punctuation]
  | some c =>
    cases trailing with
    | none => simp [List.getLast?_append, closes c rfl]
    | some d =>
      have punctuation : d ∈ grammar.punctuation := List.contains_iff_mem.1 (trails d rfl)
      simp [List.getLast?_append, List.dropLast_append_of_ne_nil, Option.filter_some, closes c rfl,
        punctuation]

/-- A text of which the word can be read has a preferred reading. -/
theorem endedWord?_ne_none (spelling : WordSpelling grammar) (opening : Option Text) :
    grammar.endedWord? opening (spelling.word ++ spelling.ending) ≠ none := by
  intro missing
  have unread := List.findSome?_eq_none_iff.1 missing _ spelling.mem_endings
  simp [spelling.isWord] at unread

/-- A text that can be read as a decorated word has a preferred reading. -/
theorem enclosedWord?_ne_none (spelling : WordSpelling grammar) :
    grammar.enclosedWord? spelling.text ≠ none := by
  unfold enclosedWord? text
  cases opening : spelling.opening with
  | none =>
    have unopened := spelling.endedWord?_ne_none none
    simp [unopened]
  | some c =>
    have opened := spelling.endedWord?_ne_none (some [c])
    simp [spelling.opens c opening, opened]

/-- A decorated word is read as it is written. -/
theorem decoratedWord?_text (classes : grammar.alphabet = .classes letters wordLetters)
    (apart : grammar.SetsDecorationApart wordLetters) (enclosures : grammar.enclosures ≠ [])
    (spelling : WordSpelling grammar) :
    grammar.decoratedWord? spelling.text = some spelling.decorated := by
  have found := decoratedWord?_eq_enclosedWord? classes enclosures spelling.text
  cases preferred : grammar.enclosedWord? spelling.text with
  | none => exact absurd preferred spelling.enclosedWord?_ne_none
  | some decorated =>
    obtain ⟨other, same, rfl⟩ := exists_of_readFrom (readFrom_enclosedWord? preferred)
    rw [found, preferred, text_inj classes apart same]

end Preferred

end WordSpelling

end ProseTree.Language
