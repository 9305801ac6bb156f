import ProseTree.Language.Grammar

/-!
# Words

Where the alphabet has classes, a word is made of groups of word letters with single joiners between
them. A word may be decorated: a punctuation character may follow it, and one layer of brackets or
quotes may stand around it, the two sides independently of each other. Of several ways to read a
decorated word the one with an opening character is preferred, then the one with the longest word,
then the one with a closing character. Where the alphabet has shapes, these say all that, and the
groups of a shape are the word and the marks around it.
-/

namespace ProseTree.Language

/-- A word and the marks around it. A mark is one character. -/
structure DecoratedWord where
  opening : Option Text
  word : Text
  closing : Option Text
  trailing : Option Text
  deriving DecidableEq, Repr

namespace Grammar

variable (grammar : Grammar)

/-- Whether the rest of a word has the right form, after a word letter or after no character and
after a joiner. -/
def continuesWord (wordLetters : CharClass) (afterLetter : Bool) : Text → Bool
  | [] => afterLetter
  | c :: rest =>
    if wordLetters.contains c then continuesWord wordLetters true rest
    else
      afterLetter && grammar.wordJoiners.contains c && continuesWord wordLetters false rest

/-- Whether the text is a word: groups of word letters with single joiners between them, or a text of
the shape of words. -/
def isWord (text : Text) : Bool :=
  match grammar.alphabet with
  | .classes _ wordLetters => grammar.continuesWord wordLetters false text
  | .shapes shapes => shapes.word.occursIn text

/-- The word and the one punctuation character that make up the text. -/
def wordWithPunctuation? (text : Text) : Option (Text × Text) :=
  match grammar.alphabet with
  | .classes _ _ => do
    let mark ← text.getLast?
    if grammar.punctuation.contains mark && grammar.isWord text.dropLast then
      some (text.dropLast, [mark])
    else none
  | .shapes shapes => do
    let groups ← shapes.punctuated.find? text
    return (← groups.lookup 1, ← groups.lookup 2)

/-- The ways to take a closing and a trailing character from the end of a text, the fewest
characters first and a closing one before a trailing one. -/
def endings (text : Text) : List (Text × Option Text × Option Text) :=
  let afterOne := text.dropLast
  let closed := (text.getLast?.filter grammar.isEnclosure).map fun c => (afterOne, some [c], none)
  let trailed :=
    (text.getLast?.filter grammar.punctuation.contains).map fun c => (afterOne, none, some [c])
  let both := do
    let trailing ← text.getLast?.filter grammar.punctuation.contains
    let closing ← afterOne.getLast?.filter grammar.isEnclosure
    return (afterOne.dropLast, some [closing], some [trailing])
  (text, none, none) :: (closed.toList ++ trailed.toList ++ both.toList)

/-- The preferred reading of a text as a word with optional characters after it. -/
def endedWord? (opening : Option Text) (text : Text) : Option DecoratedWord :=
  (grammar.endings text).findSome? fun (word, closing, trailing) =>
    if grammar.isWord word then some ⟨opening, word, closing, trailing⟩ else none

/-- The preferred reading of a text as a decorated word, by classes. -/
def enclosedWord? (text : Text) : Option DecoratedWord :=
  let opened :=
    match text with
    | [] => none
    | c :: rest => if grammar.isEnclosure c then grammar.endedWord? (some [c]) rest else none
  opened <|> grammar.endedWord? none text

/-- The preferred reading of a text as a decorated word. A grammar without enclosures has none. -/
def decoratedWord? (text : Text) : Option DecoratedWord :=
  match grammar.alphabet with
  | .classes _ _ => if grammar.enclosures.isEmpty then none else grammar.enclosedWord? text
  | .shapes shapes => do
    let groups ← (← shapes.enclosed).find? text
    return ⟨groups.lookup 1, ← groups.lookup 2, groups.lookup 3, groups.lookup 4⟩

end Grammar

end ProseTree.Language
