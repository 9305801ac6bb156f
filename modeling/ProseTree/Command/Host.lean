import ProseTree.Text.Basic

/-!
# Hosts

A host is what a command runs on: files that hold texts, standard input, standard output, and a place
for warnings. A command only acts through these operations, so it runs alike on a machine and on a
value that stands for one.
-/

namespace ProseTree.Command

/-- A cause for which a file cannot be used. -/
inductive FileError where
  | notFound
  | isDirectory
  | notDirectory
  | nameTooLong
  | notText
  | other (description : Text)
  deriving DecidableEq, Repr

/-- The wording of a cause. -/
def FileError.message : FileError → Text
  | .notFound => "No such file or directory (os error 2)"
  | .isDirectory => "Is a directory (os error 21)"
  | .notDirectory => "Not a directory (os error 20)"
  | .nameTooLong => "File name too long (os error 36)"
  | .notText => "stream did not contain valid UTF-8"
  | .other description => description

/-- What is found under a path. -/
inductive EntryKind where
  | file
  | directory
  | special
  deriving DecidableEq, Repr

/-- The operations of a host. -/
class Host (m : Type → Type) where
  /-- The text of a file. -/
  readFile : Text → m (Except FileError Text)
  /-- All of standard input. -/
  readInput : m (Except FileError Text)
  /-- Makes the file exist with this text and no other. -/
  writeFile : Text → Text → m (Except FileError Unit)
  /-- Writes a text at the end of a file. -/
  appendFile : Text → Text → m (Except FileError Unit)
  /-- What is found under a path, if anything is. -/
  entryKind? : Text → m (Option EntryKind)
  /-- The names in a directory. -/
  listDirectory : Text → m (Except FileError (List Text))
  /-- Writes to standard output. -/
  print : Text → m Unit
  /-- Tells the user about something that does not stop the command. -/
  warn : Text → m Unit

end ProseTree.Command
