import ProseTree.Text.Basic

/-!
# Refused command lines

Why a command line does not lead to a command. Asking for help or for the version is one of these
reasons, and the only one that counts as success.
-/

namespace ProseTree.Command

/-- A reason for which a command line does not lead to a command. -/
inductive UsageError where
  | helpRequested
  | versionRequested
  | nothingGiven
  | missingCommand
  | unknownCommand
  | unknownArgument
  | missingArgument
  | invalidValue
  | malformedNumber
  | conflict
  | surplusValue
  deriving DecidableEq, Repr

namespace UsageError

/-- The status with which the program ends. -/
def exitCode : UsageError → UInt32
  | helpRequested | versionRequested => 0
  | _ => 2

/-- The wording of a reason. -/
def message : UsageError → Text
  | helpRequested => "usage: lexitree [-v] [-q] parse|analyze|eval|validate|generate-config|list ..."
  | versionRequested => "lexitree 0.1.0"
  | nothingGiven => "error: no command was given"
  | missingCommand => "error: a command is required"
  | unknownCommand => "error: unknown command"
  | unknownArgument => "error: unexpected argument"
  | missingArgument => "error: a required argument is missing"
  | invalidValue => "error: a value is missing or not one of the possible values"
  | malformedNumber => "error: a value is not a number"
  | conflict => "error: arguments cannot be used together or more than once"
  | surplusValue => "error: an argument takes no value"

end UsageError

end ProseTree.Command
