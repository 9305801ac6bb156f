import ProseTree.Language.Grammar
import ProseTree.Proofs.Language.PlainLetters
import ProseTree.Proofs.Language.PlainScripts

/-!
# Accepted definitions

What an accepted definition says about its grammar: every rule of the grammar is the one of the
definition, and plain letters make an alphabet of classes, also where digits are set behind them.
-/

namespace ProseTree.Language

variable {tables : ClassTables}

/-- A computation that ends well ends well in both of its parts. -/
theorem bind_eq_ok_iff {ε α β : Type} {first : Except ε α} {next : α → Except ε β} {result : β} :
    first >>= next = .ok result ↔ ∃ value, first = .ok value ∧ next value = .ok result := by
  cases first <;> simp [bind, Except.bind]

/-- A shape that starts with a class in brackets needs the set of these brackets. -/
theorem Shape.ofText?_eq_none {text : Text} (unread : CharSet.read? text = none) :
    ofText? ('^' :: '[' :: text) = none := by
  have noParts : parts? (2 * (text.length + 1) + 3) 0 [] ('^' :: '[' :: text) = none := by
    simp [parts?, unread]
  have noAlternatives : alternatives? (2 * (text.length + 1) + 4) 0 ('^' :: '[' :: text) = none := by
    simp [alternatives?, noParts]
  have bound : 2 * ('^' :: '[' :: text).length + 2 = 2 * (text.length + 1) + 4 := by
    simp only [List.length_cons]
    omega
  rw [ofText?, bound, noAlternatives]

/-- The shapes of a definition can only be made when that of a word can. -/
theorem WordShapes.exists_shape_word {configuration : Configuration} {shapes : WordShapes}
    (made : ofConfiguration configuration = .ok shapes) :
    shape .word (wordText configuration) = .ok shapes.word := by
  unfold ofConfiguration at made
  obtain ⟨enclosed, made⟩ : ∃ enclosed, (do
      return {
        letter := ← shape .letter (letterText configuration)
        word := ← shape .word (wordText configuration)
        punctuated := ← shape .wordWithPunctuation (punctuatedText configuration)
        enclosed := enclosed } : Except ConfigError WordShapes) = .ok shapes := by
    split at made
    · exact ⟨none, made⟩
    · obtain ⟨enclosed, -, made⟩ := bind_eq_ok_iff.1 made
      exact ⟨enclosed, made⟩
  obtain ⟨letter, -, made⟩ := bind_eq_ok_iff.1 made
  obtain ⟨word, wordMade, made⟩ := bind_eq_ok_iff.1 made
  obtain ⟨punctuated, -, made⟩ := bind_eq_ok_iff.1 made
  cases made
  exact wordMade

/-- The letters of every script are a plain class body, set apart from that of the next script. -/
def Configuration.HasPlainScripts (configuration : Configuration) : Prop :=
  configuration.scripts ≠ [] ∧
    (∀ script ∈ configuration.scripts, (CharClass.ofBody? script.letters).isSome) ∧
    (configuration.scripts.map (·.letters)).IsChain CharClass.SetApart

instance (configuration : Configuration) : Decidable configuration.HasPlainScripts :=
  inferInstanceAs (Decidable (_ ∧ _ ∧ _))

/-- The letters of a definition are plain: script by script, or at least when all scripts are joined. -/
def Configuration.HasPlainLetters (configuration : Configuration) : Prop :=
  configuration.HasPlainScripts ∨ (CharClass.ofBody? configuration.letterBody).isSome

instance (configuration : Configuration) : Decidable configuration.HasPlainLetters :=
  inferInstanceAs (Decidable (_ ∨ _))

/-- Plain scripts are together a plain class body. -/
theorem Configuration.HasPlainLetters.isSome_ofBody? {configuration : Configuration}
    (plain : configuration.HasPlainLetters) : (CharClass.ofBody? configuration.letterBody).isSome := by
  obtain ⟨nonempty, scripts, apart⟩ | joined := plain
  · rw [letterBody, List.flatMap_def]
    refine CharClass.isSome_ofBody?_flatten (by simpa using nonempty) ?_ apart
    intro body member
    obtain ⟨script, inside, rfl⟩ := List.mem_map.1 member
    exact scripts script inside
  · exact joined

/-- The classes of an alphabet are those that the letters of a definition and the characters of its
words spell. -/
theorem Alphabet.ofConfiguration_eq_classes_iff {configuration : Configuration}
    {letters wordLetters : CharClass} :
    ofConfiguration configuration = .ok (.classes letters wordLetters) ↔
      CharClass.ofBody? configuration.letterBody = some letters ∧
        CharClass.ofBody? configuration.wordLetterBody = some wordLetters := by
  constructor
  · intro made
    unfold ofConfiguration at made
    split at made
    · cases made
      exact ⟨‹_›, ‹_›⟩
    · cases shapes : WordShapes.ofConfiguration configuration <;>
      · rw [shapes] at made
        cases made
  · rintro ⟨letters, wordLetters⟩
    simp only [ofConfiguration, letters, wordLetters]

/-- A definition whose letters are a plain class body has an alphabet of classes, unless it is
refused. -/
theorem Alphabet.exists_classes {configuration : Configuration} {alphabet : Alphabet}
    (accepted : ofConfiguration configuration = .ok alphabet)
    (plain : configuration.HasPlainLetters) :
    ∃ letters wordLetters, alphabet = .classes letters wordLetters := by
  have plain := plain.isSome_ofBody?
  obtain ⟨letters, lettersRead⟩ := Option.isSome_iff_exists.1 plain
  cases wordLettersRead : CharClass.ofBody? configuration.wordLetterBody with
  | some wordLetters =>
    simp only [ofConfiguration, lettersRead, wordLettersRead, Except.ok.injEq] at accepted
    exact ⟨letters, wordLetters, accepted.symm⟩
  | none =>
    have digits : configuration.wordLetterBody = configuration.letterBody ++ "0-9_".toList := by
      by_cases allowed : configuration.lexicon.wordAllowsDigits = true
      · simp [Configuration.wordLetterBody, allowed]
      · simp [Configuration.wordLetterBody, allowed, lettersRead] at wordLettersRead
    rw [digits] at wordLettersRead
    have unread := CharSet.read?_eq_none_of_backward plain (by rw [wordLettersRead]; rfl)
    obtain ⟨tail, wordText⟩ : ∃ tail : Text,
        WordShapes.wordText configuration = '^' :: '[' :: (configuration.wordLetterBody ++ tail) := by
      unfold WordShapes.wordText WordShapes.groupsText
      split
      · exact ⟨"]+" ++ "$", by simp⟩
      · exact ⟨_, by simp only [List.append_assoc]; rfl⟩
    have noWord : WordShapes.shape .word (WordShapes.wordText configuration) =
        .error (.pattern .word) := by
      rw [WordShapes.shape, wordText, digits, Shape.ofText?_eq_none (unread tail)]
    rw [ofConfiguration, lettersRead, digits, wordLettersRead] at accepted
    cases made : WordShapes.ofConfiguration configuration with
    | error refusal =>
      rw [made] at accepted
      cases accepted
    | ok shapes =>
      rw [WordShapes.exists_shape_word made] at noWord
      cases noWord

/-- Any characters are the letters of some alphabet. -/
theorem Alphabet.exists_isLetter_eq (inAlphabet : Char → Bool) :
    ∃ alphabet : Alphabet, ∀ c, alphabet.isLetter c = inAlphabet c := by
  obtain ⟨letters, same⟩ : ∃ letters, letters = ((List.range 0x110000).map Char.ofNat).filter inAlphabet :=
    ⟨_, rfl⟩
  refine ⟨.classes ⟨false, letters.map fun c => ⟨c, c⟩⟩ ⟨false, []⟩, fun c => ?_⟩
  have listed : c ∈ letters ↔ inAlphabet c = true := by
    rw [same]
    rw [List.mem_filter, and_iff_right_iff_imp]
    intro _
    have small : c.toNat < 0x110000 := by
      have valid := c.valid
      simp only [UInt32.isValidChar, Nat.isValidChar] at valid
      have same : c.toNat = c.val.toNat := rfl
      omega
    exact List.mem_map.2 ⟨c.toNat, List.mem_range.2 small, Char.ofNat_toNat c⟩
  rw [Bool.eq_iff_iff, ← listed]
  simp only [isLetter, CharClass.contains, List.any_map, Bool.bne_false, List.any_eq_true]
  constructor
  · rintro ⟨d, member, inside⟩
    simp only [Function.comp_apply, CharRange.contains, Bool.and_eq_true, decide_eq_true_iff] at inside
    rwa [Char.le_antisymm inside.2 inside.1]
  · intro member
    refine ⟨c, member, ?_⟩
    simp [CharRange.contains]

namespace Grammar

/-- The rules of a grammar are those of a definition, and its letters are understood in the given way. -/
structure Follows (alphabetOf : Configuration → Except ConfigError Alphabet) (grammar : Grammar)
    (configuration : Configuration) : Prop where
  alphabet : alphabetOf configuration = .ok grammar.alphabet
  vowels : grammar.vowels = configuration.vowels
  wordJoiners : grammar.wordJoiners = configuration.lexicon.wordJoiners
  punctuation : grammar.punctuation = configuration.lexicon.punctuation
  enclosures : grammar.enclosures = configuration.enclosures
  terminators : grammar.terminators = configuration.sentence.terminators
  ellipsis : grammar.ellipsis = configuration.sentence.ellipsis
  indentMarkers : grammar.indentMarkers = configuration.paragraph.indentMarkers
  requireIndent : grammar.requireIndent = configuration.paragraph.requireIndent
  operators : grammar.evaluator.operators = configuration.expression.operators

/-- A definition is accepted when its settings are valid, its letters are understood and there is an
operator. -/
theorem exists_ofConfigurationWith_iff {alphabetOf : Configuration → Except ConfigError Alphabet}
    {configuration : Configuration} :
    (∃ grammar, ofConfigurationWith alphabetOf configuration = .ok grammar) ↔
      invalidSetting? configuration = none ∧ (∃ alphabet, alphabetOf configuration = .ok alphabet) ∧
        configuration.expression.operators ≠ [] := by
  unfold ofConfigurationWith
  split
  · rename_i setting invalid
    simp [invalid]
  · rename_i valid
    cases made : alphabetOf configuration with
    | error refusal => simp [bind, Except.bind]
    | ok alphabet =>
      by_cases operators : configuration.expression.operators = []
      · simp [bind, Except.bind, operators]
      · simp [bind, Except.bind, operators, valid, pure, Except.pure]

/-- The grammar of an accepted definition has its rules, in whatever way its letters are understood. -/
theorem follows_of_ofConfigurationWith {alphabetOf : Configuration → Except ConfigError Alphabet}
    {configuration : Configuration} {grammar : Grammar}
    (accepted : ofConfigurationWith alphabetOf configuration = .ok grammar) :
    Follows alphabetOf grammar configuration := by
  unfold ofConfigurationWith at accepted
  split at accepted
  · cases accepted
  · obtain ⟨alphabet, alphabetMade, accepted⟩ := bind_eq_ok_iff.1 accepted
    split at accepted
    · cases accepted
    · cases accepted
      exact ⟨alphabetMade, rfl, rfl, rfl, rfl, rfl, rfl, rfl, rfl, rfl⟩

/-- A definition with valid settings and an operator can be accepted with any letters at all, so what is shown of
every way to understand letters does not depend on which patterns there are. -/
theorem exists_ofConfigurationWith_isLetter {configuration : Configuration}
    (valid : invalidSetting? configuration = none) (operators : configuration.expression.operators ≠ [])
    (inAlphabet : Char → Bool) :
    ∃ alphabetOf grammar, ofConfigurationWith alphabetOf configuration = .ok grammar ∧
      ∀ c, grammar.isLetter c = inAlphabet c := by
  obtain ⟨alphabet, same⟩ := Alphabet.exists_isLetter_eq inAlphabet
  obtain ⟨grammar, accepted⟩ :
      ∃ grammar, ofConfigurationWith (fun _ => .ok alphabet) configuration = .ok grammar :=
    exists_ofConfigurationWith_iff.2 ⟨valid, ⟨alphabet, rfl⟩, operators⟩
  have made : alphabet = grammar.alphabet :=
    Except.ok.inj (follows_of_ofConfigurationWith accepted).alphabet
  exact ⟨_, grammar, accepted, fun c => by rw [isLetter, ← made, same]⟩

/-- The grammar of an accepted definition has its rules. -/
theorem follows_of_ofConfiguration {configuration : Configuration} {grammar : Grammar}
    (accepted : ofConfiguration configuration = .ok grammar) :
    Follows Alphabet.ofConfiguration grammar configuration :=
  follows_of_ofConfigurationWith accepted

/-- Only the alphabet of a definition matters to its grammar, not the way to it. -/
theorem ofConfigurationWith_congr {alphabetOf other : Configuration → Except ConfigError Alphabet}
    {configuration : Configuration} (same : alphabetOf configuration = other configuration) :
    ofConfigurationWith alphabetOf configuration = ofConfigurationWith other configuration := by
  unfold ofConfigurationWith
  rw [same]

/-- The alphabet of an accepted grammar is the one of its definition. -/
theorem alphabet_eq {configuration : Configuration} {grammar : Grammar}
    (accepted : ofConfiguration configuration = .ok grammar) {alphabet : Alphabet}
    (made : Alphabet.ofConfiguration configuration = .ok alphabet) : grammar.alphabet = alphabet :=
  Except.ok.inj ((follows_of_ofConfiguration accepted).alphabet.symm.trans made)

/-- The letters of an accepted grammar are those of the alphabet of its definition. -/
theorem isLetter_eq {configuration : Configuration} {grammar : Grammar}
    (accepted : ofConfiguration configuration = .ok grammar) {alphabet : Alphabet}
    (made : Alphabet.ofConfiguration configuration = .ok alphabet) (c : Char) :
    grammar.isLetter c = alphabet.isLetter c := by
  rw [isLetter, alphabet_eq accepted made]

/-- What is computed from an accepted definition is computed of its grammar. -/
theorem eq_of_computed {α : Type} {configuration : Configuration} {grammar : Grammar}
    (accepted : ofConfiguration configuration = .ok grammar) (compute : Grammar → α) {result : α}
    (computed : (ofConfiguration configuration).toOption.map compute = some result) :
    compute grammar = result := by
  rw [accepted] at computed
  exact Option.some.inj computed

/-- Plain letters give an accepted grammar an alphabet of classes. -/
theorem exists_classes {configuration : Configuration} {grammar : Grammar}
    (accepted : ofConfiguration configuration = .ok grammar)
    (plain : configuration.HasPlainLetters) :
    ∃ letters wordLetters, grammar.alphabet = .classes letters wordLetters :=
  Alphabet.exists_classes (follows_of_ofConfiguration accepted).alphabet plain

end Grammar

end ProseTree.Language
