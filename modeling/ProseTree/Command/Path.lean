import ProseTree.Text.Basic

/-!
# Paths

A path is a text whose pieces stand between slashes. Two paths are the same when their parts are:
empty pieces are no parts, and neither is a dot, unless the path starts with it. Paths are ordered
part by part, and names among themselves by code point.
-/

namespace ProseTree.Command.Path

/-- A part of a path. -/
inductive Part where
  | root
  | current
  | parent
  | name (text : Text)
  deriving DecidableEq, Repr

namespace Part

/-- The place of a sort of parts before names are compared. -/
def rank : Part → Nat
  | root => 0
  | current => 1
  | parent => 2
  | name _ => 3

/-- The name of a part that has one. -/
def text : Part → Text
  | name text => text
  | _ => []

/-- Whether a part comes before another in the order of paths, or in the same place. -/
def precedes (left right : Part) : Bool :=
  left.rank < right.rank || (left.rank == right.rank && Text.precedes left.text right.text)

end Part

/-- The pieces between the slashes of a path. -/
def pieces (path : Text) : List Text :=
  Text.splitWhere (· == '/') path

/-- The part that a piece is. -/
def part? (piece : Text) : Option Part :=
  if piece = "." || piece.isEmpty then none
  else if piece = ".." then some .parent
  else some (.name piece)

/-- The parts of a path in order. -/
def parts (path : Text) : List Part :=
  let named := (pieces path).filterMap part?
  if path.head? = some '/' then .root :: named
  else if (pieces path).head? = some "." then .current :: named
  else named

/-- Whether a list of parts comes before another, or is the same. -/
def partsPrecede : List Part → List Part → Bool
  | [], _ => true
  | _ :: _, [] => false
  | left :: lefts, right :: rights =>
    if left = right then partsPrecede lefts rights else left.precedes right

/-- Whether a path comes before another, or is the same. -/
def precedes (left right : Text) : Bool :=
  partsPrecede (parts left) (parts right)

/-- Whether two paths have the same parts. -/
def same (left right : Text) : Bool :=
  parts left = parts right

/-- The name that a path ends with. -/
def fileName? (path : Text) : Option Text :=
  match (parts path).getLast? with
  | some (.name text) => some text
  | _ => none

/-- Whether a path stands for the current directory. -/
def isCurrent (path : Text) : Bool :=
  parts path = [.current]

/-- The path of a name below a directory, with the directory written out. -/
def join (directory name : Text) : Text :=
  if directory.getLast? = some '/' then directory ++ name else directory ++ '/' :: name

/-- The path of a name in a directory. The current directory is not written. -/
def child (directory name : Text) : Text :=
  if isCurrent directory then name else join directory name

/-- The paths in their order, each once; of paths that are the same the first one is kept. -/
def sorted (paths : List Text) : List Text :=
  let ordered := paths.mergeSort precedes
  (ordered.zip (none :: ordered.map some)).filterMap fun (path, before) =>
    if before.any (same path) then none else some path

end ProseTree.Command.Path
