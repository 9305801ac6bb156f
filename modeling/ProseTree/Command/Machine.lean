import ProseTree.Command.Host
import ProseTree.Command.Path

/-!
# Machines as values

A machine holds files under the names that lead to them from the root; a directory is there as soon
as a file is in it. What is printed and warned about is kept. Paths are followed part by part, from
the root or from the working directory: all parts but the last must be directories, and so must what
a slash or a dot follows. The root is its own parent.
-/

namespace ProseTree.Command

/-- A device that stands among the files. -/
inductive Device where
  | null
  | standardInput
  | standardOutput
  | standardError
  deriving DecidableEq, Repr

/-- What stands under the names of a file, as far as a reader of texts sees it. -/
inductive Content where
  | text (text : Text)
  | binary
  | device (device : Device)
  deriving DecidableEq, Repr

/-- The text of some content. A device is taken for an empty file. -/
def Content.asText : Content → Except FileError Text
  | .text held => .ok held
  | .binary => .error .notText
  | .device _ => .ok []

/-- What is left of the content of a file when it is written anew. -/
def Content.cleared : Content → Content
  | .device own => .device own
  | .text _ | .binary => .text []

/-- The content with a text at its end. -/
def Content.append (content : Content) (text : Text) : Content :=
  match content with
  | .text held => .text (held ++ text)
  | .binary => .binary
  | .device own => .device own

/-- A machine. -/
structure Machine where
  files : List (List Text × Content)
  directories : List (List Text) := []
  working : List Text := []
  input : Content := .text []
  output : Text := []
  warnings : List Text := []
  deriving Repr

namespace Machine

/-- The devices of a machine. -/
def devices : List (List Text × Content) :=
  [(["dev", "null"], .device .null), (["dev", "stdin"], .device .standardInput),
    (["dev", "stdout"], .device .standardOutput), (["dev", "stderr"], .device .standardError)]

/-- The directories that are in the root of a machine. -/
def rootDirectories : List Text :=
  ["bin", "boot", "dev", "etc", "home", "lib", "media", "mnt", "opt", "proc", "root", "run", "sbin",
    "srv", "sys", "tmp", "usr", "var"]

/-- A machine with the given files in its working directory, among temporary files. -/
def ofFiles (files : List (List Text × Content)) : Machine where
  files := devices ++ files.map fun (names, content) => ("tmp" :: "work" :: names, content)
  directories := rootDirectories.map ([·])
  working := ["tmp", "work"]

/-- The files below the working directory, under the names that lead there. -/
def workingFiles (machine : Machine) : List (List Text × Content) :=
  machine.files.filterMap fun (names, content) =>
    if machine.working.isPrefixOf names then some (names.drop machine.working.length, content)
    else none

/-- A file or a directory with the names that lead to it. -/
inductive Place where
  | file (names : List Text) (content : Content)
  | directory (names : List Text)
  deriving Repr

/-- The names that lead to a place. -/
def Place.names : Place → List Text
  | file names _ | directory names => names

/-- Whether the names lead to a directory. -/
def hasDirectory (machine : Machine) (names : List Text) : Bool :=
  names.isEmpty || names.isPrefixOf machine.working ||
    machine.directories.any names.isPrefixOf ||
    machine.files.any fun (path, _) => names.isPrefixOf path

/-- What the names lead to. -/
def place? (machine : Machine) (names : List Text) : Option Place :=
  match machine.files.lookup names with
  | some content => some (.file names content)
  | none => if machine.hasDirectory names then some (.directory names) else none

/-- The number of bytes that a name may have. -/
def nameLimit : Nat :=
  255

/-- The number of bytes that no path may reach. -/
def pathLimit : Nat :=
  4096

/-- Where one more piece of a path leads. -/
def enter (machine : Machine) (place : Place) (piece : Text) : Except FileError Place :=
  match place with
  | .file _ _ => .error .notDirectory
  | .directory names =>
    if piece = "." || piece.isEmpty then .ok place
    else if piece = ".." then .ok (.directory names.dropLast)
    else if nameLimit < Text.byteCount piece then .error .nameTooLong
    else
      match machine.place? (names ++ [piece]) with
      | some found => .ok found
      | none => .error .notFound

/-- The directory in which a path starts. -/
def start (machine : Machine) (path : Text) : Except FileError Place :=
  if path.isEmpty then .error .notFound
  else if pathLimit ≤ Text.byteCount path then .error .nameTooLong
  else .ok (.directory (if path.head? = some '/' then [] else machine.working))

/-- Where a path leads. -/
def follow (machine : Machine) (path : Text) : Except FileError Place := do
  (Path.pieces path).foldlM machine.enter (← machine.start path)

/-- The place of the file that writing to a path changes or makes; a file that is made is empty. A
path that ends with a slash or a dot is one of a directory. -/
def target (machine : Machine) (path : Text) : Except FileError (List Text × Content) := do
  let pieces := Path.pieces (Text.dropEnd (· == '/') path)
  let last := pieces.getLast?.getD []
  match ← pieces.dropLast.foldlM machine.enter (← machine.start path) with
  | .file _ _ => .error .notDirectory
  | .directory names =>
    if path.getLast? = some '/' || last = "." || last = ".." then .error .isDirectory
    else if nameLimit < Text.byteCount last then .error .nameTooLong
    else
      match machine.place? (names ++ [last]) with
      | some (.directory _) => .error .isDirectory
      | some (.file found content) => .ok (found, content)
      | none => .ok (names ++ [last], .text [])

/-- The machine with this content in a file. -/
def withFile (machine : Machine) (names : List Text) (content : Content) : Machine :=
  { machine with
    files := (machine.files.filter fun (path, _) => path != names) ++ [(names, content)] }

/-- The machine after a text was printed. -/
def withOutput (machine : Machine) (text : Text) : Machine :=
  { machine with output := machine.output ++ text }

/-- The machine after a text was written to a place, in front of which `held` is kept. -/
def written (machine : Machine) (names : List Text) (held : Content) (text : Text) : Machine :=
  match held with
  | .device .standardOutput => machine.withOutput text
  | .device _ => machine
  | .text _ | .binary => machine.withFile names (held.append text)

/-- The names in a directory, each once and in ascending order. -/
def namesIn (machine : Machine) (directory : List Text) : List Text :=
  let known := machine.working :: (machine.directories ++ machine.files.map (·.1))
  let below := known.filterMap fun names =>
    if directory.isPrefixOf names then (names.drop directory.length).head? else none
  (below.mergeSort Text.precedes).eraseDups

/-- All of standard input, of which nothing is left afterwards. -/
def takeInput (machine : Machine) : Except FileError Text × Machine :=
  (machine.input.asText, { machine with input := .text [] })

/-- The text of the file that a path leads to, and the machine afterwards. -/
def read (machine : Machine) (path : Text) : Except FileError Text × Machine :=
  match machine.follow path with
  | .error cause => (.error cause, machine)
  | .ok (.directory _) => (.error .isDirectory, machine)
  | .ok (.file _ (.device .standardInput)) => machine.takeInput
  | .ok (.file _ content) => (content.asText, machine)

/-- The machine after a text was written to a path, with what `kept` leaves of the content there in
front of it. -/
def write (machine : Machine) (kept : Content → Content) (path text : Text) :
    Except FileError Unit × Machine :=
  match machine.target path with
  | .error cause => (.error cause, machine)
  | .ok (names, content) => (.ok (), machine.written names (kept content) text)

/-- What a path leads to, if it leads anywhere. -/
def entryKind? (machine : Machine) (path : Text) : Option EntryKind :=
  match machine.follow path with
  | .ok (.file _ (.device _)) => some .special
  | .ok (.file _ _) => some .file
  | .ok (.directory _) => some .directory
  | .error _ => none

/-- The names in the directory that a path leads to. -/
def list (machine : Machine) (path : Text) : Except FileError (List Text) := do
  match ← machine.follow path with
  | .directory names => .ok (machine.namesIn names)
  | .file _ _ => .error .notDirectory

instance : Host (StateM Machine) where
  readFile path := modifyGet (·.read path)
  readInput := modifyGet (·.takeInput)
  writeFile path text := modifyGet (·.write Content.cleared path text)
  appendFile path text := modifyGet (·.write id path text)
  entryKind? path := return (← get).entryKind? path
  listDirectory path := return (← get).list path
  print text := modify (·.withOutput text)
  warn text := modify fun machine => { machine with warnings := machine.warnings ++ [text] }

end Machine

end ProseTree.Command
