import ProseTree.Toml.Moment
import ProseTree.Toml.Number
import ProseTree.Toml.Strings
import ProseTree.Toml.Table

/-!
# TOML documents

A document is read line by line: assignments, headers of tables, headers of arrays of tables, and
comments. Any departure from the format refuses the whole document. Lists and inline tables may stand
in each other up to a limit, and a dotted key may have as many parts. The bound on values and on
lines is the length of the text, since every value and every line takes a character of it.
-/

namespace ProseTree.Toml

open ProseTree.Language (Configuration Setting Surplus)

/-- The text without spaces and tabs at its start. -/
def dropSpaces (text : Text) : Text :=
  text.dropWhile isSpace

/-- What is left of a line after a comment, if one starts here, and all of the text otherwise. -/
def afterComment? : Text → Option Text
  | '#' :: rest =>
    let comment := rest.takeWhile (· != '\n')
    let comment := if (rest.drop comment.length).isEmpty then comment else Text.dropReturn comment
    if comment.any isForbidden then none else some (rest.drop comment.length)
  | text => some text

/-- What follows the end of a line, after spaces and a comment. -/
def afterLine? (text : Text) : Option Text := do
  let rest ← afterComment? (dropSpaces text)
  if rest.isEmpty then some [] else afterLineEnd? rest

/-- A character of a bare key. -/
def isBareKeyChar (c : Char) : Bool :=
  c.isAlphanum || c == '_' || c == '-'

/-- One key, bare or quoted. -/
def simpleKey? (text : Text) : Option (Text × Text) :=
  match text with
  | '"' :: rest => basic? rest
  | '\'' :: rest => literal? rest
  | _ =>
    let key := text.takeWhile isBareKeyChar
    if key.isEmpty then none else some (key, text.drop key.length)

/-- The number of levels on which a list or an inline table may stand, and of parts that a dotted key
may have. -/
def nestingLimit : Nat :=
  80

/-- A dotted key of at most so many parts. -/
def keyParts? : Nat → Text → Option (List Text × Text)
  | 0, _ => none
  | parts + 1, text => do
    let (first, rest) ← simpleKey? text
    match dropSpaces rest with
    | '.' :: afterPoint => do
      let (others, final) ← keyParts? parts (dropSpaces afterPoint)
      some (first :: others, final)
    | _ => some ([first], dropSpaces rest)

/-- A dotted key. -/
def key? (text : Text) : Option (List Text × Text) :=
  keyParts? nestingLimit text

/-- The key of an assignment on its line, and what follows its equals sign. -/
def assignment? (text : Text) : Option (List Text × Text) := do
  let (keys, rest) ← key? text
  match rest with
  | '=' :: value => some (keys, dropSpaces value)
  | _ => none

/-- A character of a number, a date, a time or a word. -/
def isScalarChar (c : Char) : Bool :=
  c.isAlphanum || c == '+' || c == '-' || c == '.' || c == ':' || c == '_'

/-- A date or a time counts as a table whose one entry has no name. -/
def moment : Setting :=
  .table [([], .other)]

/-- A number is of no use to a field, and can be passed over only if it can be held. -/
def number (fits : Bool) : Setting :=
  if fits then .other else .outOfRange

/-- A value that is no string, list or table. -/
def scalarValue? (text : Text) : Option (Setting × Text) :=
  let scalar := text.takeWhile isScalarChar
  let rest := text.drop scalar.length
  if scalar == "true".toList then some (.flag true, rest)
  else if scalar == "false".toList then some (.flag false, rest)
  else
    let time := (rest.drop 1).takeWhile isScalarChar
    if rest.head? == some ' ' && isMoment (scalar ++ ' ' :: time) then
      some (moment, rest.drop (time.length + 1))
    else if isMoment scalar then some (moment, rest)
    else (numberFits? scalar).map fun fits => (number fits, rest)

/-- The text after white space, ends of lines and comments, of which there are at most `bound`. -/
def dropLines? : Nat → Text → Option Text
  | 0, text => some text
  | bound + 1, text => do
    let rest ← afterComment? (dropSpaces text)
    match afterLineEnd? rest with
    | some next => dropLines? bound next
    | none => some rest

/-- The key of a member of an inline table and what follows its equals sign. Lines may end on both
sides of the sign. -/
def memberAssignment? (bound : Nat) (text : Text) : Option (List Text × Text) := do
  let (keys, rest) ← key? text
  match ← dropLines? bound rest with
  | '=' :: value => do
    let start ← dropLines? bound value
    some (keys, start)
  | _ => none

mutual

/-- The value at the start of a text, with so many levels left for lists and inline tables. -/
def value? : Nat → Nat → Text → Option (Setting × Text)
  | 0, _, _ => none
  | bound + 1, levels, text =>
    match text, levels with
    | '[' :: _, 0 | '\x7b' :: _, 0 => none
    | '[' :: rest, below + 1 => do
      let (items, final) ← items? bound below rest
      some (.list items, final)
    | '\x7b' :: rest, below + 1 => do
      let (entries, final) ← members? bound below [] rest
      some (.table (entriesToSettings entries), final)
    | '"' :: _, _ | '\'' :: _, _ => (string? text).map fun (value, rest) => (.text value, rest)
    | _, _ => scalarValue? text

/-- The items of a list up to its closing bracket; a comma may follow the last one. -/
def items? : Nat → Nat → Text → Option (List Setting × Text)
  | 0, _, _ => none
  | bound + 1, levels, text => do
    match ← dropLines? (bound + 1) text with
    | ']' :: final => some ([], final)
    | inner => do
      let (item, rest) ← value? bound levels inner
      match ← dropLines? (bound + 1) rest with
      | ',' :: others => do
        let (items, final) ← items? bound levels others
        some (item :: items, final)
      | ']' :: final => some ([item], final)
      | _ => none

/-- The members of an inline table up to its closing brace; a comma may follow the last one. -/
def members? : Nat → Nat → Entries → Text → Option (Entries × Text)
  | 0, _, _, _ => none
  | bound + 1, levels, entries, text => do
    match ← dropLines? (bound + 1) text with
    | '\x7d' :: final => some (entries, final)
    | inner => do
      let (keys, afterKey) ← memberAssignment? (bound + 1) inner
      let (setting, rest) ← value? bound levels afterKey
      let assigned ← Entries.assign? keys setting entries
      match ← dropLines? (bound + 1) rest with
      | ',' :: others => members? bound levels assigned others
      | '\x7d' :: final => some (assigned, final)
      | _ => none

end

/-- The keys of a header and what follows its closing brackets. -/
def header? (closing text : Text) : Option (List Text × Text) := do
  let (keys, rest) ← key? (dropSpaces text)
  let after ← Text.dropBeginning? closing rest
  some (keys, after)

/-- The entries after the lines of a text, of which there are at most so many. Assignments go to the
table that `header` names. -/
def lines? : Nat → List Text → Entries → Text → Option Entries
  | 0, _, _, _ => none
  | bound + 1, header, entries, text =>
    match dropSpaces text with
    | [] => some entries
    | '[' :: '[' :: rest => do
      let (keys, after) ← header? "]]" rest
      let opened ← Entries.openArray? keys entries
      lines? bound keys opened (← afterLine? after)
    | '[' :: rest => do
      let (keys, after) ← header? "]" rest
      let opened ← Entries.openTable? keys entries
      lines? bound keys opened (← afterLine? after)
    | start :: rest =>
      if start == '#' || start == '\n' || start == '\r' then do
        lines? bound header entries (← afterLine? (start :: rest))
      else do
        let (keys, afterKey) ← assignment? (start :: rest)
        let (setting, after) ← value? (bound + 1) nestingLimit afterKey
        let assigned ← Entries.assignBelow? header keys setting entries
        lines? bound header assigned (← afterLine? after)

/-- The text without a byte order mark at its start. -/
def dropByteOrderMark : Text → Text
  | '\ufeff' :: rest => rest
  | text => text

/-- The table that a document is. -/
def document? (text : Text) : Option Setting :=
  (lines? (text.length + 2) [] [] (dropByteOrderMark text)).map fun entries =>
    .table (entriesToSettings entries)

/-- The language definition that a document holds. -/
def configuration? (text : Text) : Option Configuration :=
  document? text >>= Configuration.ofSetting? Surplus.ignored

end ProseTree.Toml
