import ProseTree.Output.Json
import ProseTree.Output.Markdown
import ProseTree.Output.Outline
import ProseTree.Output.Plain

/-!
# Output sessions

A session writes any number of inputs in one format. Plain inputs are separated by an empty line,
Markdown sentences are numbered through all inputs, and JSON entries are written as one array when
the session ends. An outline has no form for reports.
-/

namespace ProseTree.Output

open ProseTree.Analysis (Report)

/-- A form of output. -/
inductive Format where
  | text
  | json
  | markdown
  | tree
  deriving DecidableEq, Repr

namespace Format

/-- Every format, in the order in which formats are listed. -/
def all : List Format :=
  [text, json, markdown, tree]

/-- The name of a format. -/
def name : Format → Text
  | text => "text"
  | json => "json"
  | markdown => "markdown"
  | tree => "tree"

/-- What a format is for. -/
def summary : Format → Text
  | text => "Normalized text, or a plain-text report"
  | json => "JSON array with one entry per input"
  | markdown => "Markdown sentence list or report"
  | tree => "Indented node tree (parse only)"

/-- The format of a name. -/
def ofName? (given : Text) : Option Format :=
  all.find? (·.name == given)

end Format

/-- A cause for which something cannot be written in a format. -/
inductive FormatError where
  | reportAsTree
  deriving DecidableEq, Repr

/-- The wording of a cause. -/
def FormatError.message : FormatError → Text
  | .reportAsTree => "Tree output is only available for the parse command"

/-- What a format remembers of the inputs written so far. -/
inductive Session where
  | text (written : Nat)
  | json (entries : List Json)
  | markdown (sentences : Nat)
  | tree

namespace Session

/-- A session before its first input. -/
def start : Format → Session
  | .text => text 0
  | .json => json []
  | .markdown => markdown 0
  | .tree => tree

/-- The empty line before every plain input but the first. -/
def separator (written : Nat) : List Line :=
  if written = 0 then [] else [[]]

/-- The pieces that are written for a read input, and the session after it. -/
def document (source : Text) (reading : Reading) : Session → List Text × Session
  | text written =>
    (Line.allPieces (separator written ++ [[.value reading.document.text]]), text (written + 1))
  | json entries => ([], json (entries ++ [Json.readingEntry source reading]))
  | markdown sentences =>
    (Line.allPieces (Markdown.documentLines sentences source reading.document),
      markdown (sentences + reading.document.sentences.length))
  | tree => (Line.allPieces (Outline.documentLines source reading), tree)

/-- The pieces that are written for a report, and the session after it. -/
def report (source : Text) (results : Report) :
    Session → Except FormatError (List Text × Session)
  | text written =>
    .ok (Line.allPieces (separator written ++ Plain.reportLines source results),
      text (written + 1))
  | json entries => .ok ([], json (entries ++ [Json.reportEntry source results]))
  | markdown sentences =>
    .ok (Line.allPieces (Markdown.reportLines source results),
      markdown (sentences + results.statistics.sentences))
  | tree => .error .reportAsTree

/-- The pieces that are written at the end. -/
def finish : Session → List Text
  | text _ | tree => []
  | json entries => [Text.line ((Json.array entries).pretty 0)]
  | markdown sentences => Line.allPieces (Markdown.closingLines sentences)

end Session

end ProseTree.Output
