import ProseTree.Language.CharSet

/-!
# The written form of sets

A set stands in brackets. It lists characters, ranges, named classes and further sets in brackets;
two ampersands, minuses or tildes combine the whole list before them with the whole list after them,
from left to right. A circumflex at the start takes the complement. Leading minuses, or else one
leading closing bracket, stand for themselves. A backslash takes the special meaning from the
character after it, or gives a letter one.

Which characters have a property that is named behind a backslash, and which of them words are made
of, is a matter of tables. They are a parameter of the reading; without tables these classes are
refused.
-/

namespace ProseTree.Language

/-- Tables of the classes that a pattern can name beyond those within ASCII. -/
class ClassTables where
  /-- The ranges of a property, if there is one of this name. -/
  property? : Text → Option (List CharRange)
  /-- The ranges of the characters of words. -/
  wordChars? : Option (List CharRange)

/-- No tables, under which no such class is known. -/
instance ClassTables.none : ClassTables :=
  ⟨fun _ => Option.none, Option.none⟩

variable [ClassTables]

/-- What a backslash and the characters after it stand for. -/
inductive Escape where
  | char (c : Char)
  | set (set : CharSet)
  | textStart
  | textEnd
  deriving DecidableEq, Repr

namespace Escape

/-- The ranges of a property that is named by one character, or by any number of them in braces, and
what follows the name. -/
def property? : Text → Option (List CharRange × Text)
  | '\x7b' :: braced =>
    let name := braced.takeWhile (· != '\x7d')
    match braced.drop name.length with
    | _ :: rest => (ClassTables.property? name).map (·, rest)
    | [] => none
  | [] | '\\' :: _ => none
  | c :: rest => (ClassTables.property? [c]).map (·, rest)

/-- What a backslash before this text stands for, and what follows it. -/
def read? : Text → Option (Escape × Text)
  | 'd' :: rest => some (.set .digits, rest)
  | 'D' :: rest => some (.set (.negated .digits), rest)
  | 's' :: rest => some (.set .blanks, rest)
  | 'S' :: rest => some (.set (.negated .blanks), rest)
  | 'w' :: rest => ClassTables.wordChars?.map fun list => (.set (.ranges list), rest)
  | 'W' :: rest => ClassTables.wordChars?.map fun list => (.set (.negated (.ranges list)), rest)
  | 'p' :: rest => (property? rest).map fun (list, after) => (.set (.ranges list), after)
  | 'P' :: rest => (property? rest).map fun (list, after) => (.set (.negated (.ranges list)), after)
  | 'A' :: rest => some (.textStart, rest)
  | 'z' :: rest => some (.textEnd, rest)
  | text => (CharClass.escape? text).map fun (c, rest) => (.char c, rest)

end Escape

namespace CharSet

/-- A character or an escape at the start of a text, and what follows it. -/
def primitive? : Text → Option (Escape × Text)
  | [] => none
  | '\\' :: rest => Escape.read? rest
  | c :: rest => some (.char c, rest)

/-- The set of an escape that stands in a list. -/
def ofEscape? : Escape → Option CharSet
  | .char c => some (single c)
  | .set set => some set
  | .textStart | .textEnd => none

/-- A range from one character to another that does not come before it. -/
def range? : Escape → Escape → Option CharSet
  | .char first, .char last => if first ≤ last then some (ranges [⟨first, last⟩]) else none
  | _, _ => none

/-- Whether a minus before this text stands for itself, or for half of a combination. -/
def endsBeforeMinus : Text → Bool
  | ']' :: _ | '-' :: _ => true
  | _ => false

/-- A character, an escape or a range at the start of a text, and what follows it. -/
def item? (text : Text) : Option (CharSet × Text) := do
  let (first, rest) ← primitive? text
  match rest with
  | '-' :: after =>
    if endsBeforeMinus after then return (← ofEscape? first, rest)
    else
      let (last, final) ← primitive? after
      return (← range? first last, final)
  | _ => return (← ofEscape? first, rest)

/-- A named class after its opening bracket and colon, and what follows its closing ones. -/
def namedClass? (text : Text) : Option (CharSet × Text) := do
  let (isNegated, spelt) :=
    match text with
    | '^' :: rest => (true, rest)
    | _ => (false, text)
  let name := spelt.takeWhile (· != ':')
  let rest ← Text.dropBeginning? ":]" (spelt.drop name.length)
  let list ← named? name
  return (if isNegated then negated (ranges list) else ranges list, rest)

/-- The set of a list and of what is combined with it so far. -/
def combine (before : Option (SetOperation × CharSet)) (items : List CharSet) : CharSet :=
  match before with
  | none => ofList items
  | some (operation, left) => combined operation left (ofList items)

mutual

/-- The set after an opening bracket, and what follows its closing bracket. -/
def bracket? : Nat → Text → Option (CharSet × Text)
  | 0, _ => none
  | bound + 1, text => do
    let isNegated := text.head? = some '^'
    let body := if isNegated then text.drop 1 else text
    let minuses := (body.takeWhile (· == '-')).map single
    let (leading, rest) :=
      match minuses, body.drop minuses.length with
      | [], ']' :: rest => ([single ']'], rest)
      | _, rest => (minuses, rest)
    let (inner, final) ← items? bound none leading.reverse rest
    return (bracketed (if isNegated then negated inner else inner), final)

/-- The rest of a list up to its closing bracket. Its items so far are listed last one first. -/
def items? : Nat → Option (SetOperation × CharSet) → List CharSet → Text →
    Option (CharSet × Text)
  | 0, _, _, _ => none
  | bound + 1, before, items, text =>
    match text with
    | [] => none
    | ']' :: rest => some (combine before items.reverse, rest)
    | '&' :: '&' :: rest =>
      items? bound (some (.intersection, combine before items.reverse)) [] rest
    | '-' :: '-' :: rest =>
      items? bound (some (.difference, combine before items.reverse)) [] rest
    | '~' :: '~' :: rest =>
      items? bound (some (.symmetricDifference, combine before items.reverse)) [] rest
    | '[' :: ':' :: rest =>
      match namedClass? rest with
      | some (named, after) => items? bound before (named :: items) after
      | none => do
        let (inner, after) ← bracket? bound (':' :: rest)
        items? bound before (inner :: items) after
    | '[' :: rest => do
      let (inner, after) ← bracket? bound rest
      items? bound before (inner :: items) after
    | _ => do
      let (item, after) ← item? text
      items? bound before (item :: items) after

end

/-- The set after an opening bracket, and what follows its closing bracket. -/
def read? (text : Text) : Option (CharSet × Text) :=
  bracket? (2 * text.length + 2) text

end CharSet

end ProseTree.Language
