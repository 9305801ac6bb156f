import ProseTree.Text.Basic

/-!
# Language configurations

What a language definition says, section by section, before it is checked. A section that may be
left out, or a field of it, has the default given here.
-/

namespace ProseTree.Language

/-- How a language is called. -/
structure Metadata where
  code : Text
  name : Text
  deriving DecidableEq, Repr

/-- One alphabet: its letters as the body of a character class, its vowels one by one. -/
structure Script where
  name : Text
  letters : Text
  vowels : Text := []
  deriving DecidableEq, Repr

/-- How a paragraph starts. -/
structure ParagraphRules where
  indentMarkers : List Text
  requireIndent : Bool := true
  deriving DecidableEq, Repr

/-- How a sentence ends. -/
structure SentenceRules where
  terminators : List Char
  ellipsis : Text := "..."
  deriving DecidableEq, Repr

/-- An opening character and the closing one that belongs to it. -/
structure BracketPair where
  opening : Char
  closing : Char
  deriving DecidableEq, Repr

/-- What words and the marks around them are made of. -/
structure Lexicon where
  wordJoiners : List Char := []
  punctuation : List Char
  quotes : List Char := []
  brackets : List BracketPair := []
  wordAllowsDigits : Bool := false
  deriving DecidableEq, Repr

/-- Which characters are operators. -/
structure ExpressionRules where
  operators : List Char := ['+', '-', '*', '/']
  deriving DecidableEq, Repr

/-- A language definition. -/
structure Configuration where
  metadata : Metadata
  scripts : List Script
  paragraph : ParagraphRules
  sentence : SentenceRules
  lexicon : Lexicon
  expression : ExpressionRules := {}
  deriving DecidableEq, Repr

namespace Configuration

/-- The letters of all scripts as one class body. -/
def letterBody (configuration : Configuration) : Text :=
  configuration.scripts.flatMap (·.letters)

/-- The class body of the characters that make words. -/
def wordLetterBody (configuration : Configuration) : Text :=
  configuration.letterBody ++ (if configuration.lexicon.wordAllowsDigits then "0-9_".toList else [])

/-- The vowels of all scripts. -/
def vowels (configuration : Configuration) : List Char :=
  configuration.scripts.flatMap (·.vowels)

/-- The bracket and quote characters. -/
def enclosures (configuration : Configuration) : List Char :=
  configuration.lexicon.brackets.flatMap (fun pair => [pair.opening, pair.closing]) ++
    configuration.lexicon.quotes

end Configuration

end ProseTree.Language
