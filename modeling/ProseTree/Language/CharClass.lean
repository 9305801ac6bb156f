import ProseTree.Text.Hexadecimal

/-!
# Character classes

A class of characters is a list of ranges, or the complement of one. Its written form, the body of a
class, lists single characters and ranges such as `a-z`; a circumflex at the start takes the
complement, a backslash takes the special meaning from the character after it or spells a character
by its code point, and a minus stands for itself where it cannot make a range. A body denotes at
least one range, and none that runs backwards.
-/

namespace ProseTree.Language

/-- The characters from `first` to `last`. -/
structure CharRange where
  first : Char
  last : Char
  deriving DecidableEq, Repr

/-- Whether the character lies in the range. -/
def CharRange.contains (range : CharRange) (c : Char) : Bool :=
  range.first ≤ c && c ≤ range.last

/-- The characters of some ranges, or all others. -/
structure CharClass where
  isNegated : Bool
  ranges : List CharRange
  deriving DecidableEq, Repr

namespace CharClass

/-- Whether the character is in the class. -/
def contains (charClass : CharClass) (c : Char) : Bool :=
  charClass.ranges.any (·.contains c) != charClass.isNegated

/-- A character of a class body; only a plain one can have a special meaning. -/
structure Atom where
  char : Char
  isPlain : Bool
  deriving DecidableEq, Repr

/-- The character that a backslash and the given character stand for. -/
def escaped? (c : Char) : Option Char :=
  match c with
  | 'a' => some '\x07'
  | 'f' => some '\x0c'
  | 't' => some '\t'
  | 'n' => some '\n'
  | 'r' => some '\r'
  | 'v' => some '\x0b'
  | '<' | '>' => none
  | _ => if c.toNat < 0x80 && !c.isAlphanum then some c else none

/-- A character as a number of hexadecimal digits, or as any number of them in braces. -/
def hexadecimal? (count : Nat) (text : Text) : Option (Char × Text) :=
  match text with
  | '\x7b' :: braced =>
    let digits := braced.takeWhile (· != '\x7d')
    match braced.drop digits.length with
    | _ :: rest => if digits.isEmpty then none else (Text.scalarOfHex? digits).map (·, rest)
    | [] => none
  | _ =>
    if text.length < count then none
    else (Text.scalarOfHex? (text.take count)).map (·, text.drop count)

/-- The character that a backslash before this text stands for, and what follows it. -/
def escape? : Text → Option (Char × Text)
  | [] => none
  | 'x' :: rest => hexadecimal? 2 rest
  | 'u' :: rest => hexadecimal? 4 rest
  | 'U' :: rest => hexadecimal? 8 rest
  | c :: rest => (escaped? c).map (·, rest)

/-- An atom at the start of a text, and what follows it. -/
def atom? : Text → Option (Atom × Text)
  | [] => none
  | '\\' :: rest => (escape? rest).map fun (char, after) => (⟨char, false⟩, after)
  | c :: rest => some (⟨c, true⟩, rest)

/-- The atoms of a text with at most so many of them. -/
def atomsUpTo? : Nat → Text → Option (List Atom)
  | _, [] => some []
  | 0, _ => none
  | bound + 1, text => do
    let (atom, rest) ← atom? text
    let following ← atomsUpTo? bound rest
    some (atom :: following)

/-- The atoms of a class body, of which each takes a character or more. -/
def atoms? (body : Text) : Option (List Atom) :=
  atomsUpTo? body.length body

/-- Whether the atom is the given character with its special meaning. -/
def Atom.isMark (atom : Atom) (mark : Char) : Bool :=
  atom.isPlain && atom.char == mark

/-- Whether two neighbouring atoms would combine whole classes, which a body cannot do. -/
def Atom.combines (left right : Atom) : Bool :=
  ['&', '-', '~'].any fun mark => left.isMark mark && right.isMark mark

/-- The ranges of a class body after its start. -/
def items? : List Atom → Option (List CharRange)
  | [] => some []
  | [atom] =>
    if atom.isMark '[' || atom.isMark ']' then none else some [⟨atom.char, atom.char⟩]
  | [atom, next] =>
    if atom.isMark '[' || atom.isMark ']' || atom.combines next then none
    else (items? [next]).map (⟨atom.char, atom.char⟩ :: ·)
  | atom :: next :: last :: rest =>
    if atom.isMark '[' || atom.isMark ']' || atom.combines next then none
    else if next.isMark '-' && !last.isMark '-' && !last.isMark ']' then
      if atom.char ≤ last.char then (items? rest).map (⟨atom.char, last.char⟩ :: ·) else none
    else (items? (next :: last :: rest)).map (⟨atom.char, atom.char⟩ :: ·)

/-- The ranges of a class body after its circumflex: leading minus signs, or else one leading
bracket, stand for themselves. -/
def ranges? (body : List Atom) : Option (List CharRange) :=
  let minuses := body.takeWhile (·.isMark '-')
  let leading := minuses.map fun minus => CharRange.mk minus.char minus.char
  match leading, body.dropWhile (·.isMark '-') with
  | [], bracket :: rest =>
    if bracket.isMark ']' then (items? rest).map (⟨']', ']'⟩ :: ·) else items? (bracket :: rest)
  | _, rest => (items? rest).map (leading ++ ·)

/-- The class that a body denotes. -/
def ofBody? (body : Text) : Option CharClass := do
  let atoms ← atoms? body
  let isNegated := (atoms.head?.map (·.isMark '^')).getD false
  let ranges ← ranges? (if isNegated then atoms.drop 1 else atoms)
  if ranges.isEmpty then none else some ⟨isNegated, ranges⟩

end CharClass

end ProseTree.Language
