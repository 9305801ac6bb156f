import ProseTree.Analysis.Report
import ProseTree.Reading.Standard

/-!
# JSON entries

Readings and reports as JSON values, and the text of a JSON value: two spaces per level, one item or
member per line, members by ascending key, and empty arrays and objects without a line break.
-/

namespace ProseTree.Output

open ProseTree.Analysis (LetterCount Report SentenceLetters Statistics WordCount)
open ProseTree.Reading (Gap GapReason)

/-- A JSON value; all numbers are counts. -/
inductive Json where
  | null
  | number (value : Nat)
  | string (value : Text)
  | array (items : List Json)
  | object (members : List (Text × Json))

namespace Json

/-- A character inside a JSON string. -/
def escape (c : Char) : Text :=
  if c == '"' || c == '\\' then ['\\', c]
  else if c == '\x08' then ['\\', 'b']
  else if c == '\t' then ['\\', 't']
  else if c == '\n' then ['\\', 'n']
  else if c == '\x0c' then ['\\', 'f']
  else if c == '\r' then ['\\', 'r']
  else if c.toNat < 0x10 then "\\u000" ++ Nat.toDigits 16 c.toNat
  else if c.toNat < 0x20 then "\\u00" ++ Nat.toDigits 16 c.toNat
  else [c]

/-- A JSON string with its quotes. -/
def quote (text : Text) : Text :=
  '"' :: (text.flatMap escape ++ ['"'])

/-- The start of a line at a level. -/
def newLine (level : Nat) : Text :=
  '\n' :: List.replicate (2 * level) ' '

/-- The members of an object by ascending key. -/
def sortMembers (members : List (Text × Text)) : List (Text × Text) :=
  members.mergeSort fun left right => left.1.precedes right.1

/-- Items between an opening and a closing mark, each on a line of its own. -/
def block (opening closing : Char) (level : Nat) (items : List Text) : Text :=
  if items.isEmpty then [opening, closing]
  else
    opening :: (newLine (level + 1) ++ Text.join (',' :: newLine (level + 1)) items ++
      newLine level ++ [closing])

mutual

/-- The text of a value that stands at a level. -/
def pretty (level : Nat) : Json → Text
  | null => "null"
  | number value => Text.ofNat value
  | string value => quote value
  | array items => block '[' ']' level (prettyItems (level + 1) items)
  | object members =>
    block '\x7b' '\x7d' level
      ((sortMembers (prettyMembers (level + 1) members)).map fun (key, value) =>
        quote key ++ ": " ++ value)

/-- The texts of several values. -/
def prettyItems (level : Nat) : List Json → List Text
  | [] => []
  | item :: items => pretty level item :: prettyItems level items

/-- The keys of members, with the texts of their values. -/
def prettyMembers (level : Nat) : List (Text × Json) → List (Text × Text)
  | [] => []
  | (key, value) :: members => (key, pretty level value) :: prettyMembers level members

end

/-- A count, or nothing. -/
def ofCount? : Option Nat → Json
  | none => null
  | some count => number count

/-- Statistics as an object. -/
def ofStatistics (statistics : Statistics) : Json :=
  object [("paragraphs", number statistics.paragraphs), ("sentences", number statistics.sentences),
    ("words", number statistics.words)]

/-- The reason of a gap. -/
def ofReason : GapReason → Json
  | .unrecognized => string "unrecognized"
  | .unexpectedKind kind => object [("unexpected_kind", string kind.name)]
  | .droppedCharacter => string "dropped_character"

/-- A gap as an object. -/
def ofGap (gap : Gap) : Json :=
  object [("stage", string gap.stage), ("text", string gap.text), ("reason", ofReason gap.reason)]

/-- Letter counts as an object. -/
def ofLetters (counts : LetterCount) : Json :=
  object [("vowels", number counts.vowels), ("consonants", number counts.consonants)]

/-- The letters of a sentence as an object. -/
def ofSentenceLetters (sentence : SentenceLetters) : Json :=
  object [("index", number sentence.index), ("text", string sentence.text),
    ("counts", ofLetters sentence.counts)]

/-- A word and its count as an object. -/
def ofWordCount (entry : WordCount) : Json :=
  object [("word", string entry.word), ("count", number entry.count)]

/-- A report as an object. -/
def ofReport (report : Report) : Json :=
  object [
    ("language", string report.language),
    ("statistics", ofStatistics report.statistics),
    ("paragraphs_by_sentence_count", array (report.paragraphs.map fun paragraph =>
      object [("position", number paragraph.position), ("sentences", number paragraph.sentences),
        ("text", string paragraph.text)])),
    ("longest_word_length", ofCount? report.longestWordLength),
    ("sentences_with_longest_word", array (report.longestWordSentences.map string)),
    ("min_words", number report.minWords),
    ("after_short_sentence_removal", ofStatistics report.filteredStatistics),
    ("filtered_text", string report.filteredText),
    ("duplicate_words", object (report.duplicateWords.map fun entry =>
      (entry.word, number entry.count))),
    ("top_words", array (report.topWords.map ofWordCount)),
    ("letters", array (report.letters.map ofSentenceLetters)),
    ("letter_summary", ofLetters report.letterSummary)]

/-- The entry of a read input. -/
def readingEntry (source : Text) (reading : Reading) : Json :=
  object [
    ("source", string source),
    ("statistics", ofStatistics (.ofDocument reading.document)),
    ("text", string reading.document.text),
    ("sentences", array (reading.document.sentences.map fun sentence => string sentence.text)),
    ("diagnostics", object [("gaps", array (reading.gaps.map ofGap))])]

/-- The entry of an analysed input. -/
def reportEntry (source : Text) (report : Report) : Json :=
  object [("source", string source), ("report", ofReport report)]

end Json

end ProseTree.Output
