import ProseTree.Language.Grammar
import ProseTree.Tree.Node

/-!
# Classes of symbols

A symbol of one character is in the classes of its character. An ellipsis has no character; it is
punctuation and nothing else.
-/

namespace ProseTree.Tree.Symbol

open ProseTree.Language (Grammar)

/-- Whether a symbol is an ellipsis kept whole. -/
def isEllipsis : Symbol → Bool
  | .char _ => false
  | .ellipsis _ => true

/-- Whether a symbol is a letter of the grammar. -/
def isLetter (grammar : Grammar) (symbol : Symbol) : Bool :=
  symbol.char?.any grammar.isLetter

/-- Whether a symbol is a decimal digit. -/
def isDigit (symbol : Symbol) : Bool :=
  symbol.char?.any Char.isDigit

/-- Whether a symbol is white space. -/
def isBlank (symbol : Symbol) : Bool :=
  symbol.char?.any Text.isBlank

/-- Whether a symbol is punctuation of the grammar. -/
def isPunctuation (grammar : Grammar) (symbol : Symbol) : Bool :=
  symbol.isEllipsis || symbol.char?.any grammar.isPunctuation

/-- Whether a symbol is an operator of the grammar. -/
def isOperator (grammar : Grammar) (symbol : Symbol) : Bool :=
  symbol.char?.any grammar.isOperator

end ProseTree.Tree.Symbol
