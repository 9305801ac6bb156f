import ProseTree.Text.Basic

/-!
# Template of a language definition

A definition file with one Latin script and comments that say what each setting means. The code is
written as it is given, without quoting.
-/

namespace ProseTree.Command

/-- The lines of the template that hold the language code, and those up to the settings. -/
def templateHead (code : Text) : List Text :=
  ["# Language configuration for " ++ code,
    [],
    "[metadata]",
    "code = \"" ++ code ++ "\"",
    "name = \"Custom Language\"",
    []]

/-- The lines of the settings, which are the same for every code. -/
def templateSettings : List String :=
  ["# One entry per alphabet. `letters` is the body of a regex character",
    "# class, `vowels` lists every vowel literally (both cases).",
    "[[scripts]]",
    "name = \"latin\"",
    "letters = \"a-zA-Z\"",
    "vowels = \"aeiouAEIOU\"",
    "",
    "[paragraph]",
    "# A paragraph starts with one of these markers",
    "indent_markers = [\"\\t\", \"    \"]",
    "# Unindented text is not accepted as a paragraph",
    "require_indent = true",
    "",
    "[sentence]",
    "# Characters that end a sentence",
    "terminators = [\".\", \"!\", \"?\"]",
    "# Kept as a single symbol; also ends a sentence",
    "ellipsis = \"...\"",
    "",
    "[lexicon]",
    "# Characters allowed between letters inside one word",
    "word_joiners = [\"-\", \"'\"]",
    "punctuation = [\".\", \",\", \"!\", \"?\", \";\", \":\", \"-\"]",
    "quotes = ['\"', \"'\"]",
    "# Accept digits and underscores inside words",
    "word_allows_digits = false",
    "brackets = [",
    "    \x7b open = \"(\", close = \")\" \x7d,",
    "    \x7b open = \"[\", close = \"]\" \x7d,",
    "]",
    "",
    "[expression]",
    "# Operator characters accepted around numbers; only + - * / evaluate",
    "operators = [\"+\", \"-\", \"*\", \"/\"]"]

/-- The template for a language code. -/
def languageTemplate (code : Text) : Text :=
  (templateHead code ++ templateSettings.map String.toList).flatMap Text.line

end ProseTree.Command
