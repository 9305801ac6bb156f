import ProseTree.Language.Division
import ProseTree.Reading.Chain
import ProseTree.Reading.Schedule

/-!
# Documents, paragraphs and sentences

The three outer stages divide a text and keep those candidates that the rest of the chain recognises
as nodes of the right kind. Any other candidate is a gap. The document stage always returns a
document; a candidate that left gaps below it and no node is not recorded a second time. The
paragraph stage returns nothing for a paragraph without sentences, but keeps its gaps. The sentence
stage takes a text with an upper-case start and a terminator; whatever the rest of the chain makes
of a token becomes a lexeme.
-/

namespace ProseTree.Reading

open ProseTree.Language (Grammar)
open ProseTree.Tree (Node)

/-- The gap of a candidate that became a node of the wrong kind, or no node. -/
def misplaced (stage candidate : Text) : Option Node → Gap
  | some node => ⟨stage, candidate, .unexpectedKind node.kind⟩
  | none => ⟨stage, candidate, .unrecognized⟩

/-- The name of the document stage. -/
def documentName : Text :=
  "document"

/-- The paragraph that a candidate became, or its gap. -/
def placeParagraph (candidate : Text) (outcome : Outcome) : List Node × List Gap :=
  match outcome.node with
  | some (.paragraph sentences) => ([.paragraph sentences], outcome.gaps)
  | node =>
    if node.isNone && !outcome.gaps.isEmpty then ([], outcome.gaps)
    else ([], outcome.gaps ++ [misplaced documentName candidate node])

/-- The results of all candidates, the first failure before all others. -/
def placeParagraphs :
    List (Text × Except ParseError Outcome) → Except ParseError (List Node × List Gap)
  | [] => .ok ([], [])
  | (_, .error cause) :: _ => .error cause
  | (candidate, .ok outcome) :: others =>
    (placeParagraphs others).map fun (nodes, gaps) =>
      ((placeParagraph candidate outcome).1 ++ nodes, (placeParagraph candidate outcome).2 ++ gaps)

/-- The stage that divides a text at blank lines into paragraphs. -/
def documentStage (schedule : Schedule) : Stage where
  name := documentName
  read text next :=
    let candidates := Language.paragraphCandidates text
    (placeParagraphs (candidates.zip (schedule.map next.read candidates))).map
      fun (paragraphs, gaps) => ⟨some (.document paragraphs), gaps⟩

/-- The name of the paragraph stage. -/
def paragraphName : Text :=
  "paragraph"

/-- The sentence that a candidate became, or its gap. -/
def placeSentence (candidate : Text) (outcome : Outcome) : List Node × List Gap :=
  match outcome.node with
  | some (.sentence children) => ([.sentence children], outcome.gaps)
  | node => ([], outcome.gaps ++ [misplaced paragraphName candidate node])

/-- The body of a paragraph candidate: what follows its indent, or all of it where a paragraph needs
no indent. -/
def paragraphBody? (grammar : Grammar) (text : Text) : Option Text :=
  match grammar.unindented? text with
  | some body => some body
  | none => if grammar.requireIndent then none else some (Text.trim text)

/-- The stage that divides the body of a paragraph into sentences. -/
def paragraphStage (grammar : Grammar) : Stage where
  name := paragraphName
  read text next :=
    match paragraphBody? grammar text with
    | none => next.read text
    | some body =>
      (collect (fun candidate => (next.read candidate).map (placeSentence candidate))
        (grammar.sentenceCandidates body)).map
        fun (sentences, gaps) =>
          ⟨if sentences.isEmpty then none else some (.paragraph sentences), gaps⟩

/-- The name of the sentence stage. -/
def sentenceName : Text :=
  "sentence"

/-- The lexeme that a token became, or its gap. -/
def placeLexeme (token : Text) (outcome : Outcome) : List Node × List Gap :=
  match outcome.node with
  | some (.lexeme source children) => ([.lexeme source children], outcome.gaps)
  | some other => ([.lexeme token [other]], outcome.gaps)
  | none => ([], outcome.gaps ++ [⟨sentenceName, token, .unrecognized⟩])

/-- The stage that divides a sentence into tokens and a terminator. -/
def sentenceStage (grammar : Grammar) : Stage where
  name := sentenceName
  read text next :=
    let sentence := Text.trim text
    if grammar.startsSentence sentence then
      match grammar.splitTerminator? sentence with
      | none => next.read sentence
      | some (body, terminator) =>
        match collect (fun token => (next.read token).map (placeLexeme token)) (Text.tokens body) with
        | .error cause => .error cause
        | .ok (lexemes, gaps) =>
          match Node.symbolOfText grammar terminator with
          | .error cause => .error (.model cause)
          | .ok symbol => .ok ⟨some (.sentence (lexemes ++ [symbol])), gaps⟩
    else next.read sentence

end ProseTree.Reading
