import ProseTree.Language.Word

/-!
# What a decorated word is made of

Where the alphabet has classes, the parts of a decorated word put together are the text it was read
from, its word is a word of the grammar, and its marks are single characters of the classes that may
stand in their places.
-/

namespace ProseTree.Language

/-- A decorated word, its parts put together. -/
def DecoratedWord.text (decorated : DecoratedWord) : Text :=
  decorated.opening.getD [] ++ decorated.word ++ decorated.closing.getD [] ++
    decorated.trailing.getD []

/-- A decorated word that may be read from the text: its parts make up the text, the word is a word,
and each mark that is there is one character of its class. -/
structure DecoratedWord.ReadFrom (grammar : Grammar) (text : Text) (decorated : DecoratedWord) :
    Prop where
  whole : decorated.text = text
  isWord : grammar.isWord decorated.word = true
  opening : ∀ mark ∈ decorated.opening, ∃ c, mark = [c] ∧ grammar.isEnclosure c = true
  closing : ∀ mark ∈ decorated.closing, ∃ c, mark = [c] ∧ grammar.isEnclosure c = true
  trailing : ∀ mark ∈ decorated.trailing, ∃ c, mark = [c] ∧ grammar.punctuation.contains c = true

namespace Grammar

variable {grammar : Grammar} {letters wordLetters : CharClass}

/-- A word with one punctuation character is a decorated word. -/
theorem readFrom_wordWithPunctuation? (classes : grammar.alphabet = .classes letters wordLetters)
    {text word mark : Text} (found : grammar.wordWithPunctuation? text = some (word, mark)) :
    DecoratedWord.ReadFrom grammar text ⟨none, word, none, some mark⟩ := by
  simp only [wordWithPunctuation?, classes, Option.bind_eq_bind, Option.bind_eq_some_iff] at found
  obtain ⟨c, last, found⟩ := found
  obtain ⟨before, rfl⟩ := List.getLast?_eq_some_iff.1 last
  split at found
  · rename_i conditions
    obtain ⟨punctuation, isWord⟩ := Bool.and_eq_true_iff.1 conditions
    rw [List.dropLast_concat] at found isWord
    cases found
    exact {
      whole := by simp [DecoratedWord.text]
      isWord := isWord
      opening := by simp
      closing := by simp
      trailing := by simpa using punctuation }
  · cases found

/-- What may stand behind the word at the end of a decorated word. -/
structure EndingOf (grammar : Grammar) (text : Text) (ending : Text × Option Text × Option Text) :
    Prop where
  whole : text = ending.1 ++ ending.2.1.getD [] ++ ending.2.2.getD []
  closing : ∀ mark ∈ ending.2.1, ∃ c, mark = [c] ∧ grammar.isEnclosure c = true
  trailing : ∀ mark ∈ ending.2.2, ∃ c, mark = [c] ∧ grammar.punctuation.contains c = true

/-- Every way to take marks from the end of a text takes single characters of their classes. -/
theorem endingOf_mem_endings {text : Text} {ending : Text × Option Text × Option Text}
    (member : ending ∈ grammar.endings text) : EndingOf grammar text ending := by
  have lastOf : ∀ {inClass : Char → Bool} {source : Text} {c : Char},
      source.getLast?.filter inClass = some c →
        (∃ before, source = before ++ [c]) ∧ inClass c = true := by
    intro inClass source c found
    obtain ⟨last, inside⟩ := Option.filter_eq_some_iff.1 found
    exact ⟨List.getLast?_eq_some_iff.1 last, inside⟩
  simp only [endings, List.mem_cons, List.mem_append, Option.mem_toList, Option.map_eq_some_iff,
    Option.bind_eq_bind, Option.bind_eq_some_iff] at member
  obtain rfl | (⟨c, found, rfl⟩ | ⟨c, found, rfl⟩) | ⟨trailing, trailingFound, closing, found, same⟩ :=
    member
  · exact { whole := by simp, closing := by simp, trailing := by simp }
  · obtain ⟨⟨before, rfl⟩, enclosure⟩ := lastOf found
    exact { whole := by simp, closing := by simpa using enclosure, trailing := by simp }
  · obtain ⟨⟨before, rfl⟩, punctuation⟩ := lastOf found
    exact { whole := by simp, closing := by simp, trailing := by simpa using punctuation }
  · obtain ⟨⟨before, rfl⟩, punctuation⟩ := lastOf trailingFound
    rw [List.dropLast_concat] at found same
    obtain ⟨⟨word, rfl⟩, enclosure⟩ := lastOf found
    cases same
    exact {
      whole := by simp
      closing := by simpa using enclosure
      trailing := by simpa using punctuation }

/-- A word with optional characters after it is a decorated word behind its opening character. -/
theorem readFrom_endedWord? {opening : Option Text} {text : Text} {decorated : DecoratedWord}
    (enclosures : ∀ mark ∈ opening, ∃ c, mark = [c] ∧ grammar.isEnclosure c = true)
    (found : grammar.endedWord? opening text = some decorated) :
    decorated.ReadFrom grammar (opening.getD [] ++ text) := by
  obtain ⟨⟨word, closing, trailing⟩, member, chosen⟩ := List.exists_of_findSome?_eq_some found
  have ending := endingOf_mem_endings member
  dsimp only at chosen
  split at chosen
  · rename_i isWord
    cases chosen
    exact {
      whole := by rw [ending.whole]; simp [DecoratedWord.text]
      isWord := isWord
      opening := enclosures
      closing := ending.closing
      trailing := ending.trailing }
  · cases chosen

/-- The preferred reading by classes puts nothing aside. -/
theorem readFrom_enclosedWord? {text : Text} {decorated : DecoratedWord}
    (found : grammar.enclosedWord? text = some decorated) : decorated.ReadFrom grammar text := by
  simp only [enclosedWord?, Option.orElse_eq_orElse, Option.orElse_eq_or, Option.or_eq_some_iff] at found
  obtain opened | ⟨_, unopened⟩ := found
  · split at opened
    · cases opened
    · split at opened
      · rename_i enclosure
        exact readFrom_endedWord? (by simpa using enclosure) opened
      · cases opened
  · exact readFrom_endedWord? (by simp) unopened

/-- The preferred reading of a text as a decorated word puts nothing aside. -/
theorem readFrom_decoratedWord? (classes : grammar.alphabet = .classes letters wordLetters)
    {text : Text} {decorated : DecoratedWord} (found : grammar.decoratedWord? text = some decorated) :
    decorated.ReadFrom grammar text := by
  simp only [decoratedWord?, classes] at found
  split at found
  · cases found
  · exact readFrom_enclosedWord? found

end Grammar

end ProseTree.Language
