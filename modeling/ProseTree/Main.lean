import ProseTree.Command.Run

/-!
# The program

The command line on a real machine. Reports go to standard output, notices and failures to standard
error.
-/

namespace ProseTree.Command

/-- A terminal session; the flag says whether notices are silenced. -/
abbrev Terminal := ReaderT Bool IO

namespace Terminal

/-- The number of an error of the operating system, which may come with its sign turned. -/
def errorNumber (code : UInt32) : UInt32 :=
  min code (0 - code)

/-- The cause of a failed operation on files. -/
def fileError : IO.Error → FileError
  | .noFileOrDirectory _ _ _ => .notFound
  | .invalidArgument _ code _ =>
    if errorNumber code = 36 then .nameTooLong else .other "Invalid argument (os error 22)"
  | .inappropriateType _ code _ =>
    if errorNumber code = 20 then .notDirectory else .isDirectory
  | error => .other (toString error).toList

/-- The text of some bytes. -/
def decode (bytes : ByteArray) : Except FileError Text :=
  match String.fromUTF8? bytes with
  | some text => .ok text.toList
  | none => .error .notText

/-- The result of an operation on files. -/
def attempt {α : Type} (act : IO α) : IO (Except FileError α) := do
  match ← act.toBaseIO with
  | .ok value => return .ok value
  | .error error => return .error (fileError error)

/-- All bytes that are left in a stream. -/
partial def readRest (stream : IO.FS.Stream) (read : ByteArray) : IO ByteArray := do
  let more ← stream.read 65536
  if more.isEmpty then return read else readRest stream (read ++ more)

/-- What is found under a path that is not empty. -/
def entryKind (path : String) : IO (Option EntryKind) := do
  let place := (← IO.currentDir) / path
  match ← place.metadata.toBaseIO with
  | .ok found =>
    match found.type with
    | .file => return some .file
    | .dir => return some .directory
    | _ => return some .special
  | .error _ =>
    match ← place.symlinkMetadata.toBaseIO with
    | .ok _ => return some .special
    | .error _ => return none

/-- Writes a text at the end of a file. -/
def append (path : String) (text : Text) : IO Unit := do
  let file ← IO.FS.Handle.mk path .append
  file.putStr (String.ofList text)

/-- The names in a directory, in ascending order. -/
def list (path : String) : IO (List Text) := do
  let entries ← ((← IO.currentDir) / path).readDir
  return (entries.toList.map fun entry => entry.fileName.toList).mergeSort Text.precedes

instance : Host Terminal where
  readFile path := do
    return (← attempt (IO.FS.readBinFile (String.ofList path))) >>= decode
  readInput := do
    return (← attempt (do readRest (← IO.getStdin) .empty)) >>= decode
  writeFile path text := attempt (IO.FS.writeFile (String.ofList path) (String.ofList text))
  appendFile path text := attempt (append (String.ofList path) text)
  entryKind? path := if path.isEmpty then return none else entryKind (String.ofList path)
  listDirectory path := attempt (list (String.ofList path))
  print text := IO.print (String.ofList text)
  warn text := do
    if !(← read) then IO.eprintln (String.ofList ("warning: " ++ text))

end Terminal

/-- Carries out an invocation and gives the status of the program. -/
def execute (invocation : Invocation) : IO UInt32 := do
  match ← (invocation.request.run.run : Terminal _).run invocation.globals.quiet with
  | .ok _ => return 0
  | .error failure =>
    for line in failure.lines do IO.eprintln (String.ofList line)
    return 1

end ProseTree.Command

open ProseTree.Command in
/-- Runs the program on its arguments. -/
def main (arguments : List String) : IO UInt32 := do
  let environment := (← IO.getEnv "LEXITREE_THREADS").map String.toList
  match Invocation.ofArguments environment (arguments.map String.toList) with
  | .ok invocation => execute invocation
  | .error reason =>
    if reason.exitCode = 0 then IO.println (String.ofList reason.message)
    else IO.eprintln (String.ofList reason.message)
    return reason.exitCode
