import ProseTree.Text.Basic

/-!
# Why a language definition is refused

The causes for which a definition cannot be read or gives no grammar, and their wording: in short,
and with what is wrong in a malformed file or class body.
-/

namespace ProseTree.Language

/-- A setting that no definition may have. -/
inductive InvalidSetting where
  | noScript
  | noLetters
  | noTerminator
  | noEllipsis
  | noPunctuation
  | emptyIndentMarker
  | noIndentMarker
  | noOperator
  | zeroParallelThreshold
  | zeroThreads
  deriving DecidableEq, Repr

/-- The wording of an invalid setting. -/
def InvalidSetting.message : InvalidSetting → Text
  | .noScript => "at least one script is required"
  | .noLetters => "script letters must not be empty"
  | .noTerminator => "sentence terminators must not be empty"
  | .noEllipsis => "ellipsis must not be empty"
  | .noPunctuation => "punctuation must not be empty"
  | .emptyIndentMarker => "indent markers must not be empty strings"
  | .noIndentMarker => "require_indent needs at least one indent marker"
  | .noOperator => "expression operators must not be empty"
  | .zeroParallelThreshold => "parallel_threshold must be greater than 0"
  | .zeroThreads => "threads must be greater than 0"

/-- A rule of a grammar that depends on the letters of the definition. -/
inductive PatternRule where
  | enclosedWord
  | letter
  | word
  | wordWithPunctuation
  deriving DecidableEq, Repr

/-- The name of a rule. -/
def PatternRule.name : PatternRule → Text
  | .enclosedWord => "enclosed word"
  | .letter => "letter"
  | .word => "word"
  | .wordWithPunctuation => "word with punctuation"

/-- A cause for which a language definition is refused. -/
inductive ConfigError where
  | malformed
  | invalid (setting : InvalidSetting)
  | unsupportedLanguage (code : Text)
  | pattern (rule : PatternRule)
  deriving DecidableEq, Repr

/-- The wording of a refusal, up to the place where details of the file or body would follow. -/
def ConfigError.message : ConfigError → Text
  | .malformed => "failed to parse language config"
  | .invalid setting => "invalid language config: " ++ setting.message
  | .unsupportedLanguage code => "unsupported language: " ++ code
  | .pattern rule => "invalid " ++ rule.name ++ " pattern"

/-- The wording of a refusal with what is wrong in the file or body. -/
def ConfigError.explanation : ConfigError → Text
  | .malformed => ConfigError.malformed.message ++ ": the file does not hold a language definition"
  | .pattern rule =>
    (ConfigError.pattern rule).message ++ ": the letters are not the body of a character class"
  | cause => cause.message

end ProseTree.Language
