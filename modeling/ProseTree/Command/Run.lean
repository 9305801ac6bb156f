import ProseTree.Command.Arguments
import ProseTree.Command.Failure
import ProseTree.Command.Glob
import ProseTree.Command.Template
import ProseTree.Output.Buffer
import ProseTree.Toml.Document

/-!
# Carrying out commands

Texts are read in one order: standard input first, then the files of all patterns by path, each once.
What is written for them goes to standard output or, through a buffer, to a file. The file is made
before the inputs are looked for, so an input may be the file itself, and then has what the buffer has
sent off so far. What the buffer still holds at the end is written also when an input stops the
command.
-/

namespace ProseTree.Command

open ProseTree.Language (Configuration Grammar)
open ProseTree.Output (Buffer Format Session)

variable {m : Type → Type} [Monad m] [Host m]

/-- Writes a line to standard output. -/
def printLine (text : Text) : m Unit :=
  Host.print (Text.line text)

/-- Writes lines to standard output. -/
def printLines : List Text → m Unit
  | [] => return ()
  | line :: lines => do
    printLine line
    printLines lines

/-- A result whose error is worded for the command. -/
def orFail {ε α : Type} (failure : ε → Failure) (act : m (Except ε α)) : ExceptT Failure m α :=
  ExceptT.mk (return (← act).mapError failure)

/-- The language definition in a file. -/
def loadDefinition (path : Text) : m (Except DefinitionError Configuration) := do
  match ← Host.readFile path with
  | .error cause => return .error (.unreadable path cause)
  | .ok text =>
    match Toml.configuration? text with
    | some configuration => return .ok configuration
    | none => return .error (.refused .malformed)

/-- The options of the reader that a request asks for, given the definition that it names. -/
def TextRequest.readerOptions (request : TextRequest) (definition : Option Configuration) :
    ReaderOptions where
  language := request.language.map (·.code)
  configuration := definition
  mode := if request.parallel then some .parallel else if request.sequential then some .sequential else none
  workers := request.workers

/-- The reader that a request asks for. -/
def makeReader (request : TextRequest) : ExceptT Failure m Reader := do
  let definition ←
    match request.languageFile with
    | none => pure none
    | some path => some <$> orFail (.definition path) (loadDefinition path)
  match Reader.ofOptions (request.readerOptions definition) with
  | .ok reader => return reader
  | .error cause => throw (.reader cause)

/-- Makes the output file of a request, if it names one. -/
def openOutput (request : TextRequest) : ExceptT Failure m Unit :=
  match request.output with
  | none => return ()
  | some path => orFail (.output path) (Host.writeFile path [])

/-- Writes a text at the end of the output of a request. -/
def send (request : TextRequest) (text : Text) : ExceptT Failure m Unit :=
  match request.output with
  | none => (Host.print text : m Unit)
  | some path => if text.isEmpty then return () else orFail .writing (Host.appendFile path text)

/-- Hands on pieces of output, for a file through a buffer, and gives the buffer afterwards. -/
def deliver (request : TextRequest) (pieces : List Text) (buffer : Buffer) :
    ExceptT Failure m Buffer := do
  if request.output.isNone then
    send request pieces.flatten
    return buffer
  else
    let (sent, rest) := buffer.pushAll pieces
    send request sent
    return rest

/-- Where a text comes from. -/
inductive Source where
  | standardInput
  | file (path : Text)
  deriving DecidableEq, Repr

/-- The name of a source. -/
def Source.name : Source → Text
  | standardInput => "<stdin>"
  | file path => path

/-- The text of a source. -/
def Source.read : Source → ExceptT Failure m Text
  | standardInput => orFail .standardInput Host.readInput
  | file path => orFail (.input path) (Host.readFile path)

/-- The pattern that stands for standard input. -/
def standardInputPattern : Text :=
  "-"

/-- The files of some patterns, in the order of the patterns. -/
def patternFiles : List Text → ExceptT Failure m (List Text)
  | [] => return []
  | text :: texts => do
    match Pattern.ofText? text with
    | none => throw (.pattern text)
    | some pattern =>
      let found ← orFail (fun unlistable => .listing text unlistable.path unlistable.cause)
        (Glob.files pattern).run
      return found ++ (← patternFiles texts)

/-- The sources of some patterns. Patterns for files that stand for none are a failure. -/
def sources (patterns : List Text) : ExceptT Failure m (List Source) := do
  let filePatterns := patterns.filter (· != standardInputPattern)
  let standard := if patterns.contains standardInputPattern then [Source.standardInput] else []
  if filePatterns.isEmpty then return standard
  else
    let files ← patternFiles filePatterns
    if files.isEmpty then throw .nothingFound
    else return standard ++ (Path.sorted files).map .file

/-- Goes through sources with a state that every text changes, and hands on what is written for the
texts. The first failure ends this; the buffer keeps what was handed on before. -/
def readSources {σ : Type} (request : TextRequest)
    (handle : Source → Text → σ → ExceptT Failure m (List Text × σ)) :
    σ → Buffer → List Source → m (Except Failure σ × Buffer)
  | state, buffer, [] => return (.ok state, buffer)
  | state, buffer, source :: others => do
    match ← (do handle source (← source.read) state : ExceptT Failure m (List Text × σ)).run with
    | .error failure => return (.error failure, buffer)
    | .ok (pieces, next) =>
      match ← (deliver request pieces buffer).run with
      | .error failure => return (.error failure, {})
      | .ok rest => readSources request handle next rest others

/-- Goes through all sources of a request and writes what comes of it, with last pieces from the final
state. -/
def processSources {σ : Type} (request : TextRequest) (start : σ)
    (handle : Source → Text → σ → ExceptT Failure m (List Text × σ)) (finish : σ → List Text) :
    ExceptT Failure m σ := do
  openOutput request
  let (final, buffer) ←
    (readSources request handle start {} (← sources request.patterns) : m _)
  match final with
  | .error failure =>
    let _ ← ((send request buffer.text).run : m _)
    throw failure
  | .ok state =>
    let rest ← deliver request (finish state) buffer
    send request rest.text
    return state

/-- What parsing writes for one text. The state is the session and the number of gaps so far. -/
def parseSource (reader : Reader) (source : Source) (text : Text) (state : Session × Nat) :
    ExceptT Failure m (List Text × (Session × Nat)) := do
  match reader.read text with
  | .error cause => throw (.document cause)
  | .ok reading =>
    let gaps := reading.gaps.length
    if 0 < gaps then (Host.warn (source.name ++ ": " ++ gapNotice gaps) : m Unit)
    let (pieces, session) := state.1.document source.name reading
    return (pieces, (session, state.2 + gaps))

/-- Reads texts and writes their documents. -/
def runParse (request : ParseRequest) : ExceptT Failure m Unit := do
  let reader ← makeReader request.toTextRequest
  let (_, gaps) ← processSources request.toTextRequest (Session.start request.format, 0)
    (parseSource reader) (·.1.finish)
  if request.strict && 0 < gaps then throw (.gaps gaps)

/-- What analysis writes for one text. The state is the session. -/
def analyzeSource (reader : Reader) (minWords : Nat) (source : Source) (text : Text)
    (session : Session) : ExceptT Failure m (List Text × Session) :=
  match reader.read text with
  | .error cause => throw (.document cause)
  | .ok reading =>
    match session.report source.name (Analysis.analyze reader.grammar reading.document minWords) with
    | .error cause => throw (.format cause)
    | .ok result => return result

/-- Reads texts and writes reports about their documents. -/
def runAnalyze (request : AnalyzeRequest) : ExceptT Failure m Unit := do
  if request.format = .tree then throw (.format .reportAsTree)
  let reader ← makeReader request.toTextRequest
  let _ ← processSources request.toTextRequest (Session.start request.format)
    (analyzeSource reader request.minWords) (·.finish)

/-- Prints the value of an expression that stands in several words. -/
def runEvaluate (words : List Text) : ExceptT Failure m Unit :=
  match Arithmetic.Evaluator.standard.evaluate (Text.join " " words) with
  | .error cause => throw (.evaluation cause)
  | .ok value => (printLine (Decimal.ofDouble value) : m Unit)

/-- The definition in a file and its grammar. -/
def checkDefinition (path : Text) : m (Except Invalidity (Configuration × Grammar)) := do
  match ← loadDefinition path with
  | .error cause => return .error (.unloadable cause)
  | .ok configuration =>
    match Grammar.ofConfiguration configuration with
    | .error cause => return .error (.noGrammar cause)
    | .ok grammar => return .ok (configuration, grammar)

/-- What is printed about a valid definition. -/
def validLines (configuration : Configuration) (grammar : Grammar) : List Text :=
  ["✓ Configuration is valid!",
    "  Language code: " ++ grammar.code,
    "  Language name: " ++ grammar.name,
    "  Scripts: " ++ Text.join ", " (configuration.scripts.map (·.name)),
    "  Terminators: " ++ configuration.sentence.terminators]

/-- Says whether a file holds a valid language definition. -/
def runValidate (path : Text) : ExceptT Failure m Unit := do
  (printLine ("Validating language configuration: " ++ path) : m Unit)
  match ← (checkDefinition path : m _) with
  | .ok (configuration, grammar) => (printLines (validLines configuration grammar) : m Unit)
  | .error cause =>
    (printLines ["✗ Configuration is invalid!", "  Error: " ++ cause.message] : m Unit)
    throw (.validation cause)

/-- What is printed before a template is written. -/
def generationLines (code path : Text) : List Text :=
  ["Generating language configuration template...",
    "  Language code: " ++ code,
    "  Output file: " ++ path]

/-- What is printed after a template was written. -/
def nextStepLines (path : Text) : List Text :=
  ["✓ Configuration template generated successfully!",
    [],
    "Next steps:",
    "1. Edit the configuration file to describe your alphabet and punctuation",
    "2. Validate your configuration:",
    "   lexitree validate --language-config " ++ path,
    "3. Use it for parsing:",
    "   lexitree parse -i input.txt --language-config " ++ path]

/-- Writes a template of a language definition. -/
def runGenerateConfig (code path : Text) : ExceptT Failure m Unit := do
  (printLines (generationLines code path) : m Unit)
  orFail (.template path) (Host.writeFile path (languageTemplate code))
  (printLines (nextStepLines path) : m Unit)

/-- The lines about the built-in languages. -/
def languageLines : List Text :=
  Language.BuiltIn.all.map fun language => language.code ++ "\t" ++ language.name

/-- The lines about the formats. -/
def formatLines : List Text :=
  Format.all.map fun format => format.name ++ "\t" ++ format.summary

/-- Carries out a command. -/
def Request.run : Request → ExceptT Failure m Unit
  | .parse request => runParse request
  | .analyze request => runAnalyze request
  | .evaluate words => runEvaluate words
  | .validate path => runValidate path
  | .generateConfig code path => runGenerateConfig code path
  | .listLanguages => (printLines languageLines : m Unit)
  | .listFormats => (printLines formatLines : m Unit)

end ProseTree.Command
