import ProseTree.Language.Grammar

/-!
# Built-in languages

The definitions of English and Russian, and the languages by code. Russian texts may hold words in
Latin letters.
-/

namespace ProseTree.Language

namespace Script

/-- The Latin alphabet. -/
def latin : Script where
  name := "latin"
  letters := "a-zA-Z"
  vowels := "aeiouyAEIOUY"

/-- The Cyrillic alphabet as Russian uses it. -/
def cyrillic : Script where
  name := "cyrillic"
  letters := "а-яА-ЯёЁ"
  vowels := "аеёиоуыэюяАЕЁИОУЫЭЮЯ"

end Script

/-- A built-in definition: the alphabets and quotes differ, all other rules are shared. -/
def Configuration.european (code name : Text) (scripts : List Script) (quotes : List Char) :
    Configuration where
  metadata := { code, name }
  scripts := scripts
  paragraph := { indentMarkers := ["\t", "    "], requireIndent := true }
  sentence := { terminators := ['.', '!', '?', '…'], ellipsis := "..." }
  lexicon := {
    wordJoiners := ['-', '.', '\'']
    punctuation := ['.', ',', '!', '?', ';', ':', '-', '…']
    quotes := quotes
    brackets := [⟨'(', ')'⟩, ⟨'[', ']'⟩, ⟨'\x7b', '\x7d'⟩]
    wordAllowsDigits := false }
  expression := { operators := ['+', '-', '*', '/', '=', '<', '>', '!', '&', '|'] }

/-- The definition of English. -/
def Configuration.english : Configuration :=
  .european "en" "English" [.latin] ['"', '\'', '“', '”']

/-- The definition of Russian. -/
def Configuration.russian : Configuration :=
  .european "ru" "Russian" [.cyrillic, .latin] ['"', '\'', '“', '”', '«', '»', '„']

/-- A built-in language. -/
inductive BuiltIn where
  | english
  | russian
  deriving DecidableEq, Repr

namespace BuiltIn

/-- Every built-in language, by ascending code. -/
def all : List BuiltIn :=
  [english, russian]

/-- The definition of a built-in language. -/
def configuration : BuiltIn → Configuration
  | english => .english
  | russian => .russian

/-- The code of a built-in language. -/
def code (language : BuiltIn) : Text :=
  language.configuration.metadata.code

/-- The name of a built-in language. -/
def name (language : BuiltIn) : Text :=
  language.configuration.metadata.name

/-- The names and codes that stand for a built-in language, all in lower case. -/
def aliases : BuiltIn → List Text
  | english => ["en", "eng", "english"]
  | russian => ["ru", "rus", "russian"]

/-- The built-in language that a name or code stands for, in letters of either case. -/
def ofName? (name : Text) : Option BuiltIn :=
  all.find? fun language => language.aliases.contains (Text.toLower name)

/-- The definition of the built-in language with exactly this code. -/
def configurationOfCode (code : Text) : Except ConfigError Configuration :=
  match all.find? (·.code == code) with
  | some language => .ok language.configuration
  | none => .error (.unsupportedLanguage code)

end BuiltIn

namespace Grammar

/-- The grammar of the built-in language with exactly this code. -/
def ofCode (code : Text) : Except ConfigError Grammar :=
  BuiltIn.configurationOfCode code >>= ofConfiguration

end Grammar

end ProseTree.Language
