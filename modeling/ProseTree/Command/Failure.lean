import ProseTree.Command.Host
import ProseTree.Output.Session
import ProseTree.Reader

/-!
# Failures of commands

Why a command ends without success, and the wording: a list of texts, the outermost first, each
explained by the next one.
-/

namespace ProseTree.Command

open ProseTree.Arithmetic (ExpressionError)
open ProseTree.Language (ConfigError)
open ProseTree.Output (FormatError)

/-- A cause for which a file gives no language definition. -/
inductive DefinitionError where
  | unreadable (path : Text) (cause : FileError)
  | refused (cause : ConfigError)
  deriving DecidableEq, Repr

/-- The wording of a cause. -/
def DefinitionError.reasons : DefinitionError → List Text
  | .unreadable path cause =>
    ["failed to read language config " ++ path ++ ": " ++ cause.message, cause.message]
  | .refused cause => [cause.explanation]

/-- A cause for which a definition file is not valid. -/
inductive Invalidity where
  | unloadable (cause : DefinitionError)
  | noGrammar (cause : ConfigError)
  deriving DecidableEq, Repr

/-- The wording of a cause on one line. -/
def Invalidity.message : Invalidity → Text
  | .unloadable cause => Text.join ": " cause.reasons
  | .noGrammar cause => "rules do not compile: " ++ cause.explanation

/-- A cause for which a command ends without success. -/
inductive Failure where
  | format (cause : FormatError)
  | definition (path : Text) (cause : DefinitionError)
  | reader (cause : ReaderError)
  | output (path : Text) (cause : FileError)
  | writing (cause : FileError)
  | pattern (text : Text)
  | listing (given path : Text) (cause : FileError)
  | nothingFound
  | input (path : Text) (cause : FileError)
  | standardInput (cause : FileError)
  | document (cause : ReaderError)
  | gaps (count : Nat)
  | evaluation (cause : ExpressionError)
  | validation (cause : Invalidity)
  | template (path : Text) (cause : FileError)
  deriving DecidableEq, Repr

/-- What is said about spans that were left out. -/
def gapNotice (count : Nat) : Text :=
  Text.ofNat count ++ " span(s) could not be parsed"

/-- The wording of a failure, the outermost text first. -/
def Failure.reasons : Failure → List Text
  | .format cause => [cause.message]
  | .definition path cause => ("Failed to load language config: " ++ path) :: cause.reasons
  | .reader cause => ["Configuration error: " ++ cause.explanation]
  | .output path cause => ["Failed to create output file: " ++ path, cause.message]
  | .writing cause => [cause.message]
  | .pattern text => ["Invalid file pattern: " ++ text]
  | .listing given path cause =>
    ["Error resolving pattern: " ++ given,
      "attempting to read `" ++ path ++ "` resulted in an error: " ++ cause.message, cause.message]
  | .nothingFound => ["No files found matching the provided patterns"]
  | .input path cause => ["Failed to read file: " ++ path, cause.message]
  | .standardInput cause => ["Failed to read standard input", cause.message]
  | .document cause => [cause.message]
  | .gaps count => [gapNotice count]
  | .evaluation cause => ["Evaluation error: " ++ cause.message]
  | .validation cause => ["Validation failed: " ++ cause.message]
  | .template path cause => ["Failed to write to " ++ path, cause.message]

/-- The lines of numbered causes. -/
def causeLines (causes : List Text) : List Text :=
  causes.zipIdx.map fun (cause, index) => "    " ++ Text.ofNat index ++ ": " ++ cause

/-- The lines in which a failure is reported to the user. -/
def Failure.lines (failure : Failure) : List Text :=
  match failure.reasons with
  | [] => []
  | [reason] => ["Error: " ++ reason]
  | [reason, cause] => ["Error: " ++ reason, [], "Caused by:", "    " ++ cause]
  | reason :: causes => ("Error: " ++ reason) :: [] :: "Caused by:" :: causeLines causes

end ProseTree.Command
