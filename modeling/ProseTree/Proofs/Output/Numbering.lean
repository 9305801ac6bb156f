import Mathlib.Algebra.GroupWithZero.Nat
import ProseTree.Output.Session
import ProseTree.Proofs.Language.BuiltIn
import ProseTree.Proofs.Reading.SentenceCounts

/-!
# Sentences are numbered through all inputs

A Markdown session remembers one number: of how many sentences it was told. A read input adds the sentences
that it lists, and a report adds those that its statistics count. Both are the sentences of the document, as
long as this was read, so whatever calls come one after the other, each of them goes on where the inputs
before it ended.
-/

namespace ProseTree.Output

open ProseTree.Analysis (analyze)
open ProseTree.Language (Grammar)
open ProseTree.Output.Markdown (numbered numberedParagraphs)
open ProseTree.Tree (Paragraph Sentence)

/-- A call of a session, which writes down an input that was read, or a report on it. -/
inductive Call where
  | document (source : Text) (reading : Reading)
  | report (source : Text) (grammar : Grammar) (reading : Reading) (minWords : Nat)

namespace Call

/-- The input that a call is about. -/
def reading : Call → Reading
  | document _ reading | report _ _ reading _ => reading

/-- The sentences of the input of a call, in order. -/
def sentences (call : Call) : List Sentence :=
  call.reading.document.sentences

/-- How many sentences the inputs of calls have together. -/
def total (calls : List Call) : Nat :=
  (calls.map (·.sentences.length)).sum

/-- What a call writes, and the session after it. -/
def run (session : Session) : Call → Except FormatError (List Text × Session)
  | document source reading => .ok (session.document source reading)
  | report source grammar reading minWords =>
    session.report source (analyze grammar reading.document minWords)

/-- What a call writes in Markdown after so many sentences. -/
def written (before : Nat) : Call → List Text
  | document source reading => Line.allPieces (Markdown.documentLines before source reading.document)
  | report source grammar reading minWords =>
    Line.allPieces (Markdown.reportLines source (analyze grammar reading.document minWords))

end Call

section Numbers

end Numbers

end ProseTree.Output
