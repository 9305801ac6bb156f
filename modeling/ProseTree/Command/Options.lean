import ProseTree.Command.Usage

/-!
# Options

Options change a request. A flag changes it at once. An option with a value takes it from its own
word or from the next one; a value in the next word is looked at only when another option follows or
the words end, so an unknown word after it is reported first. An option is given once unless it may
be repeated.
-/

namespace ProseTree.Command

/-- What an option does to a request. -/
inductive Action (ρ : Type) where
  | flag (apply : ρ → ρ)
  | value (apply : Text → ρ → Except UsageError ρ)
  | stop (reason : UsageError)

/-- An option with its long name and perhaps a short one. -/
structure Opt (ρ : Type) where
  long : Text
  short : Option Char := none
  repeatable : Bool := false
  action : Action ρ

/-- A word of the command line. -/
inductive Word where
  | plain (text : Text)
  | endOfOptions
  | long (name : Text) (value : Option Text)
  | cluster (letters : Text)
  deriving DecidableEq, Repr

/-- What a word looks like. A dash alone is a plain word. -/
def Word.ofText : Text → Word
  | ['-', '-'] => .endOfOptions
  | '-' :: '-' :: rest =>
    match rest.dropWhile (· != '=') with
    | _ :: value => .long (rest.takeWhile (· != '=')) (some value)
    | [] => .long rest none
  | '-' :: letter :: letters => .cluster (letter :: letters)
  | text => .plain text

/-- A request while its words are read: the long names of the options that took effect, and an option
that waits for its value, or with a value that nobody looked at. -/
structure Progress (ρ : Type) where
  request : ρ
  applied : List Text := []
  pending : Option (Opt ρ × Option Text) := none

namespace Progress

variable {ρ : Type}

/-- The effect of an option with its value, or without one. -/
def apply (progress : Progress ρ) (option : Opt ρ) (change : ρ → Except UsageError ρ) :
    Except UsageError (Progress ρ) :=
  if !option.repeatable && progress.applied.contains option.long then .error .conflict
  else
    (change progress.request).map fun request =>
      { progress with request := request, applied := option.long :: progress.applied }

/-- The effect of the pending option. -/
def settle (progress : Progress ρ) : Except UsageError (Progress ρ) :=
  match progress.pending with
  | none => .ok progress
  | some (_, none) => .error .invalidValue
  | some (option, some value) =>
    match option.action with
    | .value change => { progress with pending := none }.apply option (change value)
    | _ => .ok { progress with pending := none }

/-- The effect of an option that stands in a word, with the value in the same word. -/
def take (progress : Progress ρ) (option : Opt ρ) (attached : Option Text) :
    Except UsageError (Progress ρ) :=
  match option.action, attached with
  | .flag change, none => do (← progress.settle).apply option fun request => .ok (change request)
  | .stop reason, none => do
    let _ ← progress.settle
    .error reason
  | .flag _, some _ | .stop _, some _ => .error .surplusValue
  | .value change, some value => do (← progress.settle).apply option (change value)
  | .value _, none => do return { ← progress.settle with pending := some (option, none) }

/-- The effect of the letters of a cluster. The first option with a value takes the rest of it, without
an equals sign in front. -/
def takeCluster (options : List (Opt ρ)) (progress : Progress ρ) :
    Text → Except UsageError (Progress ρ)
  | [] => .ok progress
  | letter :: letters =>
    match options.find? (·.short == some letter) with
    | none => .error .unknownArgument
    | some option =>
      match option.action with
      | .value _ =>
        match letters with
        | [] => progress.take option none
        | '=' :: value => progress.take option (some value)
        | value => progress.take option (some value)
      | _ => do takeCluster options (← progress.take option none) letters

/-- The effect of a long option. -/
def takeLong (options : List (Opt ρ)) (progress : Progress ρ) (name : Text) (attached : Option Text) :
    Except UsageError (Progress ρ) :=
  match options.find? (·.long == name) with
  | none => .error .unknownArgument
  | some option => progress.take option attached

/-- Whether the next plain word is the value of the pending option. -/
def awaitsValue (progress : Progress ρ) : Bool :=
  match progress.pending with
  | some (_, none) => true
  | _ => false

/-- The pending option with its value. -/
def withValue (progress : Progress ρ) (value : Text) : Progress ρ :=
  { progress with pending := progress.pending.map fun (option, _) => (option, some value) }

end Progress

variable {ρ : Type}

/-- The request of words that are all options and their values. -/
def readOptions (options : List (Opt ρ)) (progress : Progress ρ) :
    List Text → Except UsageError ρ
  | [] => progress.settle.map (·.request)
  | word :: words =>
    match Word.ofText word with
    | .endOfOptions =>
      if words.isEmpty then progress.settle.map (·.request) else .error .unknownArgument
    | .long name attached => do readOptions options (← progress.takeLong options name attached) words
    | .cluster letters => do readOptions options (← progress.takeCluster options letters) words
    | .plain text =>
      if progress.awaitsValue then readOptions options (progress.withValue text) words
      else .error .unknownArgument

/-- The request of words in front of operands, and the operands: from the first word on that is no
known option, and all words after the end of the options. The options have no values. -/
def readOperands (options : List (Opt ρ)) (progress : Progress ρ) :
    List Text → Except UsageError (ρ × List Text)
  | [] => .ok (progress.request, [])
  | word :: words =>
    match Word.ofText word with
    | .endOfOptions => .ok (progress.request, words)
    | .long name attached =>
      if options.any (·.long == name) then do
        readOperands options (← progress.takeLong options name attached) words
      else .ok (progress.request, word :: words)
    | .cluster letters =>
      if letters.all fun letter => options.any (·.short == some letter) then do
        readOperands options (← progress.takeCluster options letters) words
      else .ok (progress.request, word :: words)
    | .plain _ => .ok (progress.request, word :: words)

/-- The request of words in front of a command name, the name, and the words after it. The options have
no values; a command name is not looked for after the end of the options. -/
def readCommandName (options : List (Opt ρ)) (names : List Text) (progress : Progress ρ) :
    List Text → Except UsageError (ρ × Text × List Text)
  | [] => .error (if progress.applied.isEmpty then .nothingGiven else .missingCommand)
  | word :: words =>
    if names.contains word then .ok (progress.request, word, words)
    else
      match Word.ofText word with
      | .endOfOptions =>
        match words with
        | [] => .error (if progress.applied.isEmpty then .nothingGiven else .missingCommand)
        | next :: _ => .error (if names.contains next then .unknownArgument else .unknownCommand)
      | .long name attached => do
        readCommandName options names (← progress.takeLong options name attached) words
      | .cluster letters => do
        readCommandName options names (← progress.takeCluster options letters) words
      | .plain _ => .error .unknownCommand

end ProseTree.Command
