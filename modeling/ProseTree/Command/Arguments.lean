import ProseTree.Command.Options
import ProseTree.Language.Embedded
import ProseTree.Output.Session

/-!
# Command lines

The commands with what they are asked to do, and the command line of each. Help, verbosity and silence
may be asked for in front of a command name and behind it.
-/

namespace ProseTree.Command

open ProseTree.Language (BuiltIn)
open ProseTree.Output (Format)

/-- What every command is told: how much to log, and whether to log at all. -/
structure Globals where
  verbosity : Nat := 0
  quiet : Bool := false
  deriving DecidableEq, Repr

/-- Globals given at two places: silence at either place is silence, and the inner verbosity counts if
there is one. -/
def Globals.within (outer inner : Globals) : Globals where
  verbosity := if inner.verbosity = 0 then outer.verbosity else inner.verbosity
  quiet := outer.quiet || inner.quiet

/-- What a command that reads texts is asked to do. -/
structure TextRequest where
  patterns : List Text := []
  language : Option BuiltIn := none
  languageFile : Option Text := none
  parallel : Bool := false
  sequential : Bool := false
  workers : Option Nat := none
  output : Option Text := none
  format : Format := .text
  deriving DecidableEq, Repr

/-- What parsing is asked to do. -/
structure ParseRequest extends TextRequest where
  strict : Bool := false
  deriving DecidableEq, Repr

/-- What analysis is asked to do. -/
structure AnalyzeRequest extends TextRequest where
  minWords : Nat := 3
  deriving DecidableEq, Repr

/-- A command and what it is asked to do. -/
inductive Request where
  | parse (request : ParseRequest)
  | analyze (request : AnalyzeRequest)
  | evaluate (words : List Text)
  | validate (path : Text)
  | generateConfig (code path : Text)
  | listLanguages
  | listFormats
  deriving DecidableEq, Repr

/-- A request together with the globals. -/
structure Given (ρ : Type) where
  globals : Globals := {}
  request : ρ

/-- A command together with the globals. -/
abbrev Invocation := Given Request

namespace Value

/-- A count: decimal digits after an optional plus sign, below the limit of a machine word. -/
def count (text : Text) : Except UsageError Nat :=
  let digits := if text.head? = some '+' then text.drop 1 else text
  let value := digits.foldl (fun value c => value * 10 + (c.toNat - '0'.toNat)) 0
  if digits.isEmpty || !digits.all Char.isDigit || UInt64.size ≤ value then .error .malformedNumber
  else .ok value

/-- A path, which is not empty. -/
def path (text : Text) : Except UsageError Text :=
  if text.isEmpty then .error .invalidValue else .ok text

/-- The names by which the built-in languages are chosen. -/
def languageNames : List (Text × BuiltIn) :=
  [("english", .english), ("russian", .russian)]

/-- A built-in language by its name. -/
def language (text : Text) : Except UsageError BuiltIn :=
  match languageNames.lookup text with
  | some language => .ok language
  | none => .error .invalidValue

/-- A format by its name. -/
def format (text : Text) : Except UsageError Format :=
  match Format.ofName? text with
  | some format => .ok format
  | none => .error .invalidValue

end Value

/-- The options of every command. -/
def globalOptions {ρ : Type} : List (Opt (Given ρ)) :=
  [{ long := "help", short := some 'h', action := .stop .helpRequested },
    { long := "verbose", short := some 'v', repeatable := true,
      action := .flag fun given =>
        { given with globals.verbosity := given.globals.verbosity + 1 } },
    { long := "quiet", short := some 'q',
      action := .flag fun given => { given with globals.quiet := true } }]

/-- The options in front of a command name. -/
def topOptions : List (Opt (Given Unit)) :=
  { long := "version", short := some 'V', action := .stop .versionRequested } :: globalOptions

/-- The options of a command that reads texts, where `on` changes the common part of its request. -/
def textOptions {ρ : Type} (on : (TextRequest → TextRequest) → ρ → ρ) : List (Opt (Given ρ)) :=
  let change (update : TextRequest → TextRequest) (given : Given ρ) : Given ρ :=
    { given with request := on update given.request }
  [{ long := "input", short := some 'i', repeatable := true,
      action := .value fun text given =>
        .ok (change (fun request => { request with patterns := request.patterns ++ [text] }) given) },
    { long := "language", short := some 'l',
      action := .value fun text given => do
        let language ← Value.language text
        return change (fun request => { request with language := some language }) given },
    { long := "language-config",
      action := .value fun text given => do
        let path ← Value.path text
        return change (fun request => { request with languageFile := some path }) given },
    { long := "parallel", short := some 'p',
      action := .flag (change fun request => { request with parallel := true }) },
    { long := "sequential",
      action := .flag (change fun request => { request with sequential := true }) },
    { long := "threads", short := some 't',
      action := .value fun text given => do
        let count ← Value.count text
        return change (fun request => { request with workers := some count }) given },
    { long := "output", short := some 'o',
      action := .value fun text given => do
        let path ← Value.path text
        return change (fun request => { request with output := some path }) given },
    { long := "format", short := some 'f',
      action := .value fun text given => do
        let format ← Value.format text
        return change (fun request => { request with format := format }) given }]

/-- The options of parsing. -/
def parseOptions : List (Opt (Given ParseRequest)) :=
  { long := "strict",
    action := .flag fun given => { given with request.strict := true } } ::
  (textOptions (fun update request => { request with toTextRequest := update request.toTextRequest }) ++
    globalOptions)

/-- The options of analysis. -/
def analyzeOptions : List (Opt (Given AnalyzeRequest)) :=
  { long := "min-words", short := some 'm',
    action := .value fun text given => do
      return { given with request.minWords := ← Value.count text } } ::
  (textOptions (fun update request => { request with toTextRequest := update request.toTextRequest }) ++
    globalOptions)

/-- A request for texts that can be carried out: with the number of workers from the environment when
it names none, without options that exclude each other, and with something to read. -/
def TextRequest.checked (environment : Option Text) (request : TextRequest) :
    Except UsageError TextRequest := do
  let workers ←
    match request.workers, environment with
    | none, some text => some <$> Value.count text
    | workers, _ => .ok workers
  if request.language.isSome && request.languageFile.isSome then .error .conflict
  else if request.parallel && request.sequential then .error .conflict
  else if request.patterns.isEmpty then .error .missingArgument
  else return { request with workers := workers }

/-- The command line of parsing. -/
def readParse (environment : Option Text) (words : List Text) : Except UsageError Invocation := do
  let given ← readOptions parseOptions { request := { request := {} } } words
  let request ← given.request.checked environment
  return ⟨given.globals, .parse { given.request with toTextRequest := request }⟩

/-- The command line of analysis. -/
def readAnalyze (environment : Option Text) (words : List Text) : Except UsageError Invocation := do
  let given ← readOptions analyzeOptions { request := { request := {} } } words
  let request ← given.request.checked environment
  return ⟨given.globals, .analyze { given.request with toTextRequest := request }⟩

/-- The command line of evaluation. -/
def readEvaluate (words : List Text) : Except UsageError Invocation := do
  let (given, operands) ← readOperands globalOptions { request := ({ request := () } : Given Unit) } words
  if operands.isEmpty then .error .missingArgument
  else return ⟨given.globals, .evaluate operands⟩

/-- The command line of validation. -/
def readValidate (words : List Text) : Except UsageError Invocation := do
  let options : List (Opt (Given (Option Text))) :=
    { long := "language-config", short := some 'c',
      action := .value fun text given => do
        return { given with request := some (← Value.path text) } } :: globalOptions
  let given ← readOptions options { request := { request := none } } words
  match given.request with
  | some path => return ⟨given.globals, .validate path⟩
  | none => .error .missingArgument

/-- The command line of template generation. -/
def readGenerateConfig (words : List Text) : Except UsageError Invocation := do
  let options : List (Opt (Given (Option Text × Option Text))) :=
    { long := "language-code", short := some 'l',
      action := .value fun text given => .ok { given with request := (some text, given.request.2) } } ::
    { long := "output", short := some 'o',
      action := .value fun text given => do
        let path ← Value.path text
        return { given with request := (given.request.1, some path) } } :: globalOptions
  let given ← readOptions options { request := { request := (none, none) } } words
  match given.request with
  | (some code, some path) => return ⟨given.globals, .generateConfig code path⟩
  | _ => .error .missingArgument

/-- The command line of a listing without options of its own. -/
def readListing (command : Request) (words : List Text) : Except UsageError Invocation := do
  let given ← readOptions globalOptions { request := ({ request := () } : Given Unit) } words
  return ⟨given.globals, command⟩

/-- The name of the command that explains the others. -/
def helpName : Text :=
  "help"

/-- The names of the listings. -/
def listingNames : List Text :=
  ["languages", "formats", helpName]

/-- The names of the commands. -/
def commandNames : List Text :=
  ["parse", "analyze", "eval", "validate", "generate-config", "list", helpName]

/-- The outcome of asking for help about a listing. -/
def readListHelp : List Text → UsageError
  | [] => .helpRequested
  | [name] => if listingNames.contains name then .helpRequested else .unknownCommand
  | _ => .unknownCommand

/-- The outcome of asking for help about a command. -/
def readHelp : List Text → UsageError
  | [] => .helpRequested
  | name :: names =>
    if name = "list" then readListHelp names
    else if commandNames.contains name && names.isEmpty then .helpRequested
    else .unknownCommand

/-- The command line of the listings. -/
def readList (words : List Text) : Except UsageError Invocation := do
  let (given, name, rest) ←
    readCommandName globalOptions listingNames { request := ({ request := () } : Given Unit) } words
  let invocation ←
    if name = "languages" then readListing .listLanguages rest
    else if name = "formats" then readListing .listFormats rest
    else .error (readListHelp rest)
  return { invocation with globals := given.globals.within invocation.globals }

/-- The command line of a command by its name. -/
def readCommand (environment : Option Text) (name : Text) (words : List Text) :
    Except UsageError Invocation :=
  if name = "parse" then readParse environment words
  else if name = "analyze" then readAnalyze environment words
  else if name = "eval" then readEvaluate words
  else if name = "validate" then readValidate words
  else if name = "generate-config" then readGenerateConfig words
  else if name = "list" then readList words
  else .error (readHelp words)

/-- The invocation that a command line asks for; `environment` is the number of workers that the
environment asks for. -/
def Invocation.ofArguments (environment : Option Text) (words : List Text) :
    Except UsageError Invocation := do
  let (given, name, rest) ←
    readCommandName topOptions commandNames { request := ({ request := () } : Given Unit) } words
  let invocation ← readCommand environment name rest
  return { invocation with globals := given.globals.within invocation.globals }

end ProseTree.Command
