import ProseTree.Language.Configuration
import ProseTree.Language.Error
import ProseTree.Language.ShapeSyntax

/-!
# Alphabets

An alphabet says which characters are letters and which texts are words. The letters of a definition
are the body of a class in brackets. A plain body, one of characters and ranges, gives two classes:
the letters, and the characters of words. Any other body is set into the written shapes of a letter,
of a word and of a decorated word, where it may combine sets, or close its brackets and go on.
-/

namespace ProseTree.Language

/-- The shapes of a letter, of a word, and of words with marks around them. -/
structure WordShapes where
  letter : Shape
  word : Shape
  punctuated : Shape
  enclosed : Option Shape
  deriving DecidableEq, Repr

/-- Which characters are letters and which texts are words. -/
inductive Alphabet where
  | classes (letters wordLetters : CharClass)
  | shapes (shapes : WordShapes)
  deriving DecidableEq, Repr

/-- Whether a character is a letter. -/
def Alphabet.isLetter : Alphabet → Char → Bool
  | classes letters _, c => letters.contains c
  | shapes all, c => all.letter.occursIn [c]

variable [ClassTables]

namespace WordShapes

/-- The characters that have a special meaning in a shape. -/
def isSpecial (c : Char) : Bool :=
  "\\.+*?()|[]\x7b\x7d^$#&-~".toList.contains c

/-- A set of characters in brackets. -/
def setText (chars : List Char) : Text :=
  '[' :: (chars.flatMap (fun c => if isSpecial c then ['\\', c] else [c]) ++ [']'])

/-- The written shape of a letter. -/
def letterText (configuration : Configuration) : Text :=
  "^[" ++ configuration.letterBody ++ "]$"

/-- The written shape of words, without the ends of the text. -/
def groupsText (configuration : Configuration) : Text :=
  let group : Text := "[" ++ configuration.wordLetterBody ++ "]+"
  if configuration.lexicon.wordJoiners.isEmpty then group
  else group ++ "(?:" ++ setText configuration.lexicon.wordJoiners ++ group ++ ")*"

/-- The written shape of a word. -/
def wordText (configuration : Configuration) : Text :=
  "^" ++ groupsText configuration ++ "$"

/-- The written shape of a word and a punctuation character. -/
def punctuatedText (configuration : Configuration) : Text :=
  "^(" ++ groupsText configuration ++ ")(" ++ setText configuration.lexicon.punctuation ++ ")$"

/-- The written shape of a word with an enclosure on each side and a punctuation character, all of
which may be missing. -/
def enclosedText (configuration : Configuration) : Text :=
  let enclosure : Text := "(" ++ setText configuration.enclosures ++ ")?"
  "^" ++ enclosure ++ "(" ++ groupsText configuration ++ ")" ++ enclosure ++ "(" ++
    setText configuration.lexicon.punctuation ++ ")?$"

/-- The shape that a text spells, or the refusal of the rule that needs it. -/
def shape (rule : PatternRule) (text : Text) : Except ConfigError Shape :=
  match Shape.ofText? text with
  | some shape => .ok shape
  | none => .error (.pattern rule)

/-- The shapes of a definition. Without enclosures there is no shape of an enclosed word. -/
def ofConfiguration (configuration : Configuration) : Except ConfigError WordShapes := do
  let enclosed ←
    if configuration.enclosures.isEmpty then pure none
    else some <$> shape .enclosedWord (enclosedText configuration)
  return {
    letter := ← shape .letter (letterText configuration)
    word := ← shape .word (wordText configuration)
    punctuated := ← shape .wordWithPunctuation (punctuatedText configuration)
    enclosed := enclosed }

end WordShapes

/-- The alphabet of a definition. -/
def Alphabet.ofConfiguration (configuration : Configuration) : Except ConfigError Alphabet :=
  match CharClass.ofBody? configuration.letterBody,
    CharClass.ofBody? configuration.wordLetterBody with
  | some letters, some wordLetters => .ok (.classes letters wordLetters)
  | _, _ => (WordShapes.ofConfiguration configuration).map .shapes

end ProseTree.Language
