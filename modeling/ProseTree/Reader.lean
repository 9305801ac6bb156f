import ProseTree.Language.Embedded
import ProseTree.Reading.Standard

/-!
# Readers

A reader is a grammar and the standard chain of stages for it. It is made from options, each of
which may be left open: a built-in language by name, a language definition in its place, and the
schedule of paragraphs. Options are checked in this order: the name of the language, the threshold,
the number of workers; then the definition of the language.
-/

namespace ProseTree

open ProseTree.Language (BuiltIn ConfigError Configuration Grammar)
open ProseTree.Reading (Chain Mode ParseError Schedule)

/-- A cause for which there is no reader, or no document. -/
inductive ReaderError where
  | configuration (cause : ConfigError)
  | invalidLanguage (name : Text)
  | parse (cause : ParseError)
  deriving DecidableEq, Repr

/-- The wording of a cause. -/
def ReaderError.message : ReaderError → Text
  | .configuration cause => "Configuration error: " ++ cause.message
  | .invalidLanguage name => "Invalid language: " ++ name
  | .parse cause => "Parse error: " ++ cause.message

/-- The wording of a cause with what is wrong in a definition. -/
def ReaderError.explanation : ReaderError → Text
  | .configuration cause => "Configuration error: " ++ cause.explanation
  | cause => cause.message

/-- What a caller may ask for. -/
structure ReaderOptions where
  language : Option Text := none
  configuration : Option Configuration := none
  mode : Option Mode := none
  threshold : Option Nat := none
  workers : Option Nat := none

/-- What a reader is made from, with all open options filled in. -/
structure ReaderSettings where
  language : BuiltIn
  configuration : Option Configuration
  schedule : Schedule

/-- A grammar and the standard chain for it. -/
structure Reader where
  settings : ReaderSettings
  grammar : Grammar

namespace ReaderOptions

/-- The language that the options name, English when they name none. -/
def builtIn (options : ReaderOptions) : Except ReaderError BuiltIn :=
  match options.language with
  | none => .ok .english
  | some name =>
    match BuiltIn.ofName? name with
    | some language => .ok language
    | none => .error (.invalidLanguage name)

/-- The schedule that the options ask for. -/
def schedule (options : ReaderOptions) : Schedule where
  mode := options.mode.getD .adaptive
  threshold := options.threshold.getD 64
  workers := options.workers

/-- The settings that the options ask for. -/
def settings (options : ReaderOptions) : Except ReaderError ReaderSettings :=
  match options.builtIn with
  | .error cause => .error cause
  | .ok language =>
    if options.schedule.threshold = 0 then
      .error (.configuration (.invalid .zeroParallelThreshold))
    else if options.schedule.workers = some 0 then .error (.configuration (.invalid .zeroThreads))
    else .ok ⟨language, options.configuration, options.schedule⟩

end ReaderOptions

namespace Reader

/-- The reader with the given settings. -/
def ofSettings (settings : ReaderSettings) : Except ReaderError Reader :=
  let configuration := settings.configuration.getD settings.language.configuration
  match Grammar.ofConfiguration configuration with
  | .ok grammar => .ok ⟨settings, grammar⟩
  | .error cause => .error (.configuration cause)

/-- The reader that the options ask for. -/
def ofOptions (options : ReaderOptions) : Except ReaderError Reader :=
  options.settings >>= ofSettings

/-- The chain of a reader. -/
def chain (reader : Reader) : Chain :=
  Reading.standardChain reader.grammar reader.settings.schedule

/-- The document of a text, and its gaps. -/
def read (reader : Reader) (text : Text) : Except ReaderError Reading :=
  (reader.chain.readDocument text).mapError .parse

end Reader

end ProseTree
