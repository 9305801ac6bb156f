import ProseTree.Command.Host
import ProseTree.Command.Path
import ProseTree.Command.Wildcard

/-!
# Files of a pattern

The paths of a host that a pattern stands for. A piece that is a name leads on if the name exists; a
piece with wildcards leads to the names of a directory that it admits, in ascending order, and to
the directory itself or its parent if it starts with a dot and admits them. Any number of
directories may stand for two stars; when nothing follows these, they stand for directories.
-/

namespace ProseTree.Command.Glob

variable {m : Type → Type} [Monad m] [Host m]

/-- A directory that cannot be listed. -/
structure Unlistable where
  path : Text
  cause : FileError
  deriving DecidableEq, Repr

/-- Whether a path leads to a directory. -/
def isDirectory (path : Text) : m Bool :=
  return (← Host.entryKind? path) = some .directory

/-- Whether a path leads anywhere. -/
def leadsOn (path : Text) : m Bool :=
  return (← Host.entryKind? path).isSome

/-- The special names that a piece of wildcards admits. -/
def specialNames : PatternPiece → List Text
  | .wild (.char '.' :: wildcards) =>
    ([".", ".."] : List Text).filter (Wildcard.standFor (.char '.' :: wildcards))
  | _ => []

/-- The results for every path in order. -/
def gather (find : Text → ExceptT Unlistable m (List Text)) :
    List Text → ExceptT Unlistable m (List Text)
  | [] => return []
  | path :: paths => return (← find path) ++ (← gather find paths)

mutual

/-- The paths below a path that the pieces stand for, if none of them needs more than `fuel` steps. -/
def below : Nat → List PatternPiece → Text → ExceptT Unlistable m (List Text)
  | 0, _, _ => return []
  | _ + 1, [], path => return [path]
  | fuel + 1, .name text :: pieces, path => do
    let next := Path.child path text
    if ← (if text = "." || text = ".." then isDirectory path else leadsOn next : m Bool) then
      below fuel pieces next
    else return []
  | fuel + 1, piece :: pieces, path => do
    if ← (isDirectory path : m Bool) then
      match ← (Host.listDirectory path : m _) with
      | .error cause => throw ⟨path, cause⟩
      | .ok names =>
        let special ← gather (below fuel pieces) ((specialNames piece).map (Path.join path))
        let found ← gather (within fuel (piece :: pieces)) (names.map (Path.child path))
        return special ++ found
    else return []

/-- The paths that the pieces stand for, the first of which is about the end of this path. -/
def within : Nat → List PatternPiece → Text → ExceptT Unlistable m (List Text)
  | 0, _, _ => return []
  | _ + 1, [], _ => return []
  | fuel + 1, .anyDepth :: pieces, path => do
    let others := pieces.dropWhile (· = .anyDepth)
    if ← (isDirectory path : m Bool) then
      let here ← if others.isEmpty then pure [path] else within fuel others path
      return here ++ (← below fuel (.anyDepth :: others) path)
    else within fuel others path
  | fuel + 1, piece :: pieces, path =>
    if ((Path.fileName? path).map piece.admits).getD false then below fuel pieces path
    else return []

end

/-- More steps than any path can need: a step adds to the path or uses up a piece, and a host has no
path of more than 4096 bytes. -/
def fuelFor (pattern : Pattern) : Nat :=
  2 * (4096 + pattern.pieces.length)

/-- The paths that a pattern stands for. -/
def paths (pattern : Pattern) : ExceptT Unlistable m (List Text) :=
  below (fuelFor pattern) pattern.pieces (if pattern.isAbsolute then "/" else ".")

/-- Those of some paths that lead to files. -/
def keepFiles : List Text → m (List Text)
  | [] => return []
  | path :: paths => do
    let kind ← Host.entryKind? path
    let others ← keepFiles paths
    return if kind = some .file then path :: others else others

/-- The files that a pattern stands for; a pattern for directories only has none. -/
def files (pattern : Pattern) : ExceptT Unlistable m (List Text) := do
  let found ← paths pattern
  if pattern.directoriesOnly then return [] else (keepFiles found : m (List Text))

end ProseTree.Command.Glob
