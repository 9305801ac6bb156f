import ProseTree.Arithmetic.Evaluator
import ProseTree.Language.Alphabet
import ProseTree.Text.Case

/-!
# Grammars

A grammar is a checked language definition: its letters are understood as an alphabet, its ellipsis
and its operators are not empty. This module makes grammars and has their classes of
characters; the other rules of a grammar stand on these.
-/

namespace ProseTree.Language

open ProseTree.Arithmetic (Evaluator)

/-- The rules of a language. -/
structure Grammar where
  code : Text
  name : Text
  alphabet : Alphabet
  vowels : List Char
  wordJoiners : List Char
  punctuation : List Char
  enclosures : List Char
  terminators : List Char
  ellipsis : Text
  indentMarkers : List Text
  requireIndent : Bool
  evaluator : Evaluator
  ellipsis_ne_nil : ellipsis ≠ []

namespace Grammar

/-- The first invalid setting of a definition, in the order in which settings are checked. -/
def invalidSetting? (configuration : Configuration) : Option InvalidSetting :=
  if configuration.scripts.isEmpty then some .noScript
  else if configuration.scripts.any (·.letters.isEmpty) then some .noLetters
  else if configuration.sentence.terminators.isEmpty then some .noTerminator
  else if configuration.sentence.ellipsis.isEmpty then some .noEllipsis
  else if configuration.lexicon.punctuation.isEmpty then some .noPunctuation
  else if configuration.paragraph.indentMarkers.any (·.isEmpty) then some .emptyIndentMarker
  else if configuration.paragraph.requireIndent && configuration.paragraph.indentMarkers.isEmpty then
    some .noIndentMarker
  else none

/-- A definition without invalid settings has an ellipsis. -/
theorem ellipsis_ne_nil_of_valid {configuration : Configuration}
    (valid : invalidSetting? configuration = none) : configuration.sentence.ellipsis ≠ [] := by
  intro missing
  simp only [invalidSetting?, missing, List.isEmpty_nil, if_true] at valid
  repeat' split at valid <;> try contradiction

/-- The grammar of a definition, whose letters are understood in the given way. -/
def ofConfigurationWith (alphabetOf : Configuration → Except ConfigError Alphabet)
    (configuration : Configuration) : Except ConfigError Grammar :=
  match valid : invalidSetting? configuration with
  | some setting => .error (.invalid setting)
  | none => do
    let alphabet ← alphabetOf configuration
    if operators : configuration.expression.operators = [] then .error (.invalid .noOperator)
    else
      return {
        code := configuration.metadata.code
        name := configuration.metadata.name
        alphabet := alphabet
        vowels := configuration.vowels
        wordJoiners := configuration.lexicon.wordJoiners
        punctuation := configuration.lexicon.punctuation
        enclosures := configuration.enclosures
        terminators := configuration.sentence.terminators
        ellipsis := configuration.sentence.ellipsis
        indentMarkers := configuration.paragraph.indentMarkers
        requireIndent := configuration.paragraph.requireIndent
        evaluator := ⟨configuration.expression.operators, operators⟩
        ellipsis_ne_nil := ellipsis_ne_nil_of_valid valid }

/-- The grammar of a definition. -/
def ofConfiguration [ClassTables] (configuration : Configuration) : Except ConfigError Grammar :=
  ofConfigurationWith Alphabet.ofConfiguration configuration

variable (grammar : Grammar)

/-- A letter of one of the scripts. -/
def isLetter (c : Char) : Bool :=
  grammar.alphabet.isLetter c

/-- A listed vowel, whether or not it is a letter. -/
def isVowel (c : Char) : Bool :=
  grammar.vowels.contains c

/-- A letter that is no vowel. -/
def isConsonant (c : Char) : Bool :=
  grammar.isLetter c && !grammar.isVowel c

/-- A sentence terminator. -/
def isTerminator (c : Char) : Bool :=
  grammar.terminators.contains c

/-- A punctuation character; every terminator is one. -/
def isPunctuation (c : Char) : Bool :=
  grammar.punctuation.contains c || grammar.isTerminator c

/-- An operator character. -/
def isOperator (c : Char) : Bool :=
  grammar.evaluator.operators.contains c

/-- A bracket or a quote. -/
def isEnclosure (c : Char) : Bool :=
  grammar.enclosures.contains c

/-- A character that can be kept as a symbol. -/
def isSymbolChar (c : Char) : Bool :=
  grammar.isLetter c || c.isDigit || grammar.isPunctuation c || grammar.isOperator c ||
    grammar.isEnclosure c

/-- A sentence starts with an upper-case letter of the language. -/
def startsSentence (text : Text) : Bool :=
  match text with
  | [] => false
  | c :: _ => Text.isUppercase c && grammar.isLetter c

end Grammar

end ProseTree.Language
