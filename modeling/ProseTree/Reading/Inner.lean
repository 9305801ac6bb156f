import ProseTree.Language.Word
import ProseTree.Reading.Chain

/-!
# Lexemes, words, expressions and symbols

The four inner stages read one token. The lexeme stage makes a lexeme of whatever the rest of the
chain makes of the token. The word stage takes words and decorated words, the expression stage
plain arithmetic that has a value, and the symbol stage keeps what is left as a run of symbols; in a
run the ellipsis is kept whole, and characters that cannot be symbols are gaps. A run without any
symbol is handed on, without gaps.
-/

namespace ProseTree.Reading

open ProseTree.Language (DecoratedWord Grammar)
open ProseTree.Tree (ModelError Node Symbol)

/-- The name of the lexeme stage. -/
def lexemeName : Text :=
  "lexeme"

/-- Whether a text is one token: not empty and without white space. -/
def isToken (text : Text) : Bool :=
  !text.isEmpty && !text.any Text.isBlank

/-- The lexeme of a token around what the rest of the chain made of it. A lexeme that comes back
gives its children and not itself. -/
def wrapToken (token : Text) : Node → Node
  | .lexeme _ children => .lexeme token children
  | node => .lexeme token [node]

/-- The stage that makes lexemes of tokens. -/
def lexemeStage : Stage where
  name := lexemeName
  read text next :=
    if isToken text then
      (next.read text).map fun outcome => { outcome with node := outcome.node.map (wrapToken text) }
    else next.read text

/-- The name of the word stage. -/
def wordName : Text :=
  "word"

/-- The symbols of optional marks, those that are there in order. -/
def symbolsOf (grammar : Grammar) : List (Option Text) → Except ModelError (List Node)
  | [] => .ok []
  | none :: others => symbolsOf grammar others
  | some mark :: others => do
    let symbol ← Node.symbolOfText grammar mark
    let symbols ← symbolsOf grammar others
    return symbol :: symbols

/-- The lexeme of a decorated word. -/
def decoratedLexeme (grammar : Grammar) (text : Text) (decorated : DecoratedWord) :
    Except ModelError Node := do
  let before ← symbolsOf grammar [decorated.opening]
  let word ← Node.wordOfText grammar decorated.word
  let after ← symbolsOf grammar [decorated.closing, decorated.trailing]
  return .lexeme text (before ++ word :: after)

/-- The node of a text that is a word or a decorated word. -/
def wordNode? (grammar : Grammar) (text : Text) : Option (Except ModelError Node) :=
  if grammar.isWord text then some (Node.wordOfText grammar text)
  else
    match grammar.wordWithPunctuation? text with
    | some (word, mark) => some (decoratedLexeme grammar text ⟨none, word, none, some mark⟩)
    | none => (grammar.decoratedWord? text).map (decoratedLexeme grammar text)

/-- The stage that recognises words and decorated words. -/
def wordStage (grammar : Grammar) : Stage where
  name := wordName
  read text next :=
    match wordNode? grammar text with
    | none => next.read text
    | some (.ok node) => .ok (.clean node)
    | some (.error cause) => .error (.model cause)

/-- The name of the expression stage. -/
def expressionName : Text :=
  "expression"

/-- The stage that replaces plain arithmetic by its value. -/
def expressionStage (grammar : Grammar) : Stage where
  name := expressionName
  read text next :=
    if grammar.evaluator.isPlain text then
      match grammar.evaluator.value text with
      | .ok value => .ok (.clean (.expression text value))
      | .error _ => next.read text
    else next.read text

/-- The name of the symbol stage. -/
def symbolName : Text :=
  "symbol"

/-- A piece of a token in a run of symbols: a symbol to keep, or a character to drop. -/
inductive RunPiece where
  | kept (symbol : Symbol)
  | dropped (c : Char)
  deriving DecidableEq, Repr

/-- The text of a piece. -/
def RunPiece.text : RunPiece → Text
  | .kept symbol => symbol.text
  | .dropped c => [c]

/-- The pieces of a token from the left: an ellipsis where one starts, else one character. -/
def runPieces (grammar : Grammar) (text : Text) : List RunPiece :=
  match text with
  | [] => []
  | c :: rest =>
    match found : Text.dropBeginning? grammar.ellipsis (c :: rest) with
    | some after =>
      have := Text.length_dropBeginning?_lt grammar.ellipsis_ne_nil found
      .kept (.ellipsis grammar.ellipsis) :: runPieces grammar after
    | none =>
      (if grammar.isSymbolChar c then .kept (.char c) else .dropped c) :: runPieces grammar rest
termination_by text.length
decreasing_by all_goals (simp only [List.length_cons] at *; omega)

/-- The symbols that are kept of some pieces. -/
def keptSymbols (pieces : List RunPiece) : List Symbol :=
  pieces.filterMap fun
    | .kept symbol => some symbol
    | .dropped _ => none

/-- The characters that are dropped of some pieces. -/
def droppedChars (pieces : List RunPiece) : List Char :=
  pieces.filterMap fun
    | .kept _ => none
    | .dropped c => some c

/-- The outcome of a token as one symbol or as a run of symbols, if anything of it can be kept. -/
def symbolOutcome? (grammar : Grammar) (text : Text) : Option Outcome :=
  if text = grammar.ellipsis then some (.clean (.symbol (.ellipsis text)))
  else
    match text with
    | [c] => if grammar.isSymbolChar c then some (.clean (.symbol (.char c))) else none
    | _ =>
      let pieces := runPieces grammar text
      if (keptSymbols pieces).isEmpty then none
      else
        some ⟨some (.lexeme text ((keptSymbols pieces).map .symbol)),
          (droppedChars pieces).map fun c => ⟨symbolName, [c], .droppedCharacter⟩⟩

/-- The stage that keeps what is left of a token as symbols. -/
def symbolStage (grammar : Grammar) : Stage where
  name := symbolName
  read text next :=
    if isToken text then
      match symbolOutcome? grammar text with
      | some outcome => .ok outcome
      | none => next.read text
    else next.read text

end ProseTree.Reading
