import ProseTree.Text.Basic

/-!
# File patterns

A pattern is read piece by piece between its slashes. A piece without wildcards is a name; two stars
alone stand for any number of directories; any other piece is a sequence of characters, question
marks, stars and classes in brackets. A class starts with an exclamation mark to mean its complement,
and a closing bracket right after the start is one of its characters. Two stars inside a piece and a
bracket without its partner are errors.
-/

namespace ProseTree.Command

/-- One element of a piece with wildcards. -/
inductive Wildcard where
  | char (c : Char)
  | anyChar
  | anyText
  | oneOf (ranges : List (Char × Char))
  | noneOf (ranges : List (Char × Char))
  deriving DecidableEq, Repr

namespace Wildcard

/-- Whether a character is in one of the ranges. -/
def inRanges (ranges : List (Char × Char)) (c : Char) : Bool :=
  ranges.any fun (first, last) => first ≤ c && c ≤ last

/-- Whether an element that stands for one character can stand for this one. -/
def accepts : Wildcard → Char → Bool
  | char own, c => own == c
  | anyChar, _ => true
  | anyText, _ => false
  | oneOf ranges, c => inRanges ranges c
  | noneOf ranges, c => !inRanges ranges c

/-- The ranges of a class; a single character is a range of one. -/
def rangesOf : Text → List (Char × Char)
  | first :: '-' :: last :: rest => (first, last) :: rangesOf rest
  | c :: rest => (c, c) :: rangesOf rest
  | [] => []

/-- A class after its opening bracket, without an exclamation mark, and what follows it. -/
def classBody? : Text → Option (List (Char × Char) × Text)
  | [] => none
  | first :: rest =>
    match rest.dropWhile (· != ']') with
    | _ :: after => some (rangesOf (first :: rest.takeWhile (· != ']')), after)
    | [] => none

/-- A class after its opening bracket, and what follows it. -/
def charClass? : Text → Option (Wildcard × Text)
  | '!' :: rest => (classBody? rest).map fun (ranges, after) => (noneOf ranges, after)
  | text => (classBody? text).map fun (ranges, after) => (oneOf ranges, after)

/-- What follows the body of a class is shorter than the text from the body on. -/
theorem length_classBody?_lt {text after : Text} {ranges : List (Char × Char)}
    (found : classBody? text = some (ranges, after)) : after.length < text.length := by
  unfold classBody? at found
  split at found
  · cases found
  · rename_i first rest
    split at found
    · rename_i head rest' dropped
      cases found
      have shorter := (List.dropWhile_suffix (· != ']') (l := rest)).length_le
      rw [dropped] at shorter
      simp only [List.length_cons] at shorter ⊢
      omega
    · cases found

/-- What follows a class is shorter than the text after its opening bracket. -/
theorem length_charClass?_lt {text after : Text} {wildcard : Wildcard}
    (found : charClass? text = some (wildcard, after)) : after.length < text.length := by
  unfold charClass? at found
  split at found
  · obtain ⟨⟨ranges, rest⟩, read, same⟩ := Option.map_eq_some_iff.1 found
    cases same
    exact Nat.lt_succ_of_lt (length_classBody?_lt read)
  · obtain ⟨⟨ranges, rest⟩, read, same⟩ := Option.map_eq_some_iff.1 found
    cases same
    exact length_classBody?_lt read

/-- The elements of a piece; two stars in a row and an unfinished class have none. -/
def ofText? (text : Text) : Option (List Wildcard) :=
  match text with
  | [] => some []
  | '*' :: '*' :: _ => none
  | '*' :: rest => (ofText? rest).map (anyText :: ·)
  | '?' :: rest => (ofText? rest).map (anyChar :: ·)
  | '[' :: rest =>
    match found : charClass? rest with
    | some (wildcard, after) =>
      have := length_charClass?_lt found
      (ofText? after).map (wildcard :: ·)
    | none => none
  | c :: rest => (ofText? rest).map (char c :: ·)
termination_by text.length
decreasing_by all_goals (simp only [List.length_cons] at *; omega)

/-- Whether a name is one that the elements stand for. -/
def standFor : List Wildcard → Text → Bool
  | [], name => name.isEmpty
  | anyText :: wildcards, name =>
    standFor wildcards name ||
      match name with
      | [] => false
      | _ :: rest => standFor (anyText :: wildcards) rest
  | _ :: _, [] => false
  | wildcard :: wildcards, c :: rest => wildcard.accepts c && standFor wildcards rest
termination_by wildcards name => wildcards.length + name.length
decreasing_by all_goals (simp only [List.length_cons] at *; omega)

end Wildcard

/-- One piece of a pattern. -/
inductive PatternPiece where
  | name (text : Text)
  | wild (wildcards : List Wildcard)
  | anyDepth
  deriving DecidableEq, Repr

namespace PatternPiece

/-- Whether a character makes a piece more than a name. -/
def isSpecial (c : Char) : Bool :=
  c == '*' || c == '?' || c == '['

/-- The piece that a text spells. -/
def ofText? (text : Text) : Option PatternPiece :=
  if text = "**" then some .anyDepth
  else if text.any isSpecial then (Wildcard.ofText? text).map .wild
  else some (.name text)

/-- Whether the piece stands for a name in a directory. -/
def admits : PatternPiece → Text → Bool
  | .name text, candidate => text == candidate
  | .wild wildcards, candidate => Wildcard.standFor wildcards candidate
  | .anyDepth, _ => false

end PatternPiece

/-- A pattern: its pieces below the root or the current directory. A pattern that ends with a slash
stands for directories only. -/
structure Pattern where
  isAbsolute : Bool
  pieces : List PatternPiece
  directoriesOnly : Bool
  deriving DecidableEq, Repr

namespace Pattern

/-- The pieces of a text between its slashes, without the empty one after a last slash. -/
def splitPieces (text : Text) : List Text :=
  match Text.splitWhere (· == '/') text with
  | [only] => [only]
  | pieces => if pieces.getLast? = some [] then pieces.dropLast else pieces

/-- The pattern that a text spells. -/
def ofText? (text : Text) : Option Pattern :=
  let isAbsolute := text.head? == some '/'
  let below := if isAbsolute then text.drop 1 else text
  ((splitPieces below).mapM PatternPiece.ofText?).map
    (⟨isAbsolute, ·, text.getLast? == some '/'⟩)

end Pattern

end ProseTree.Command
