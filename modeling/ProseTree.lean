import ProseTree.Analysis.Letters
import ProseTree.Analysis.Report
import ProseTree.Analysis.Structure
import ProseTree.Analysis.Words
import ProseTree.Arithmetic.Conversion
import ProseTree.Arithmetic.Error
import ProseTree.Arithmetic.Evaluator
import ProseTree.Arithmetic.Operator
import ProseTree.Arithmetic.Token
import ProseTree.Command.Arguments
import ProseTree.Command.Failure
import ProseTree.Command.Glob
import ProseTree.Command.Host
import ProseTree.Command.Machine
import ProseTree.Command.Options
import ProseTree.Command.Path
import ProseTree.Command.Run
import ProseTree.Command.Template
import ProseTree.Command.Usage
import ProseTree.Command.Wildcard
import ProseTree.Decimal.Nearest
import ProseTree.Decimal.Shortest
import ProseTree.Language.Alphabet
import ProseTree.Language.CharClass
import ProseTree.Language.CharSet
import ProseTree.Language.CharSetSyntax
import ProseTree.Language.Configuration
import ProseTree.Language.Division
import ProseTree.Language.Embedded
import ProseTree.Language.Error
import ProseTree.Language.Grammar
import ProseTree.Language.Setting
import ProseTree.Language.Shape
import ProseTree.Language.ShapeSyntax
import ProseTree.Language.Word
import ProseTree.Main
import ProseTree.Output.Buffer
import ProseTree.Output.Json
import ProseTree.Output.Line
import ProseTree.Output.Markdown
import ProseTree.Output.Outline
import ProseTree.Output.Plain
import ProseTree.Output.Plural
import ProseTree.Output.Session
import ProseTree.Proofs.Analysis.Consistency
import ProseTree.Proofs.Analysis.LetterLeaves
import ProseTree.Proofs.Analysis.Letters
import ProseTree.Proofs.Analysis.ParagraphOrder
import ProseTree.Proofs.Analysis.Removal
import ProseTree.Proofs.Analysis.Structure
import ProseTree.Proofs.Analysis.WordCounts
import ProseTree.Proofs.Analysis.WordFrequencies
import ProseTree.Proofs.Arithmetic.Conversion
import ProseTree.Proofs.Arithmetic.Depth
import ProseTree.Proofs.Arithmetic.Derivation
import ProseTree.Proofs.Arithmetic.Evaluation
import ProseTree.Proofs.Arithmetic.Faults
import ProseTree.Proofs.Arithmetic.Infix
import ProseTree.Proofs.Arithmetic.Phases
import ProseTree.Proofs.Arithmetic.PlainForm
import ProseTree.Proofs.Arithmetic.PlainStart
import ProseTree.Proofs.Arithmetic.PlainValue
import ProseTree.Proofs.Arithmetic.Scanning
import ProseTree.Proofs.Arithmetic.SolidParts
import ProseTree.Proofs.Arithmetic.Spacing
import ProseTree.Proofs.Arithmetic.StackFaults
import ProseTree.Proofs.Command.Template
import ProseTree.Proofs.Decimal.Characters
import ProseTree.Proofs.Decimal.Nearest
import ProseTree.Proofs.Decimal.RoundTrip
import ProseTree.Proofs.Decimal.Shortest
import ProseTree.Proofs.Language.Accepted
import ProseTree.Proofs.Language.BuiltIn
import ProseTree.Proofs.Language.ClassBody
import ProseTree.Proofs.Language.Decoration
import ProseTree.Proofs.Language.Division
import ProseTree.Proofs.Language.Escapes
import ProseTree.Proofs.Language.FirstLine
import ProseTree.Proofs.Language.Line
import ProseTree.Proofs.Language.LineEnds
import ProseTree.Proofs.Language.LineGroups
import ProseTree.Proofs.Language.ListedLetters
import ProseTree.Proofs.Language.LooseWords
import ProseTree.Proofs.Language.Normalization
import ProseTree.Proofs.Language.ParagraphBreaks
import ProseTree.Proofs.Language.Phrase
import ProseTree.Proofs.Language.PlainLetters
import ProseTree.Proofs.Language.PlainScripts
import ProseTree.Proofs.Language.PlainSets
import ProseTree.Proofs.Language.Scripts
import ProseTree.Proofs.Language.SetLists
import ProseTree.Proofs.Language.SetReading
import ProseTree.Proofs.Language.ShapeMatching
import ProseTree.Proofs.Language.ShapeReading
import ProseTree.Proofs.Language.Spans
import ProseTree.Proofs.Language.Spelling
import ProseTree.Proofs.Language.SymbolChars
import ProseTree.Proofs.Language.Undivided
import ProseTree.Proofs.Language.WordGroups
import ProseTree.Proofs.Language.WordStart
import ProseTree.Proofs.Language.Words
import ProseTree.Proofs.Output.Numbering
import ProseTree.Proofs.Output.Outline
import ProseTree.Proofs.Output.ReportLines
import ProseTree.Proofs.Output.ReportTexts
import ProseTree.Proofs.Output.TableRows
import ProseTree.Proofs.Output.Wording
import ProseTree.Proofs.Reading.Composition
import ProseTree.Proofs.Reading.Conservation
import ProseTree.Proofs.Reading.Exchange
import ProseTree.Proofs.Reading.Forwarding
import ProseTree.Proofs.Reading.Fragments
import ProseTree.Proofs.Reading.Kinds
import ProseTree.Proofs.Reading.LineEnds
import ProseTree.Proofs.Reading.Nesting
import ProseTree.Proofs.Reading.Numbers
import ProseTree.Proofs.Reading.Outcomes
import ProseTree.Proofs.Reading.PhraseWords
import ProseTree.Proofs.Reading.Phrases
import ProseTree.Proofs.Reading.Placement
import ProseTree.Proofs.Reading.ReadWords
import ProseTree.Proofs.Reading.Recounting
import ProseTree.Proofs.Reading.Rereading
import ProseTree.Proofs.Reading.SentenceCounts
import ProseTree.Proofs.Reading.Shape
import ProseTree.Proofs.Reading.SolidSentences
import ProseTree.Proofs.Reading.Spelling
import ProseTree.Proofs.Reading.StageCases
import ProseTree.Proofs.Reading.SymbolRuns
import ProseTree.Proofs.Reading.Token
import ProseTree.Proofs.Reading.TokenFate
import ProseTree.Proofs.Reading.TokenWords
import ProseTree.Proofs.Reading.Totality
import ProseTree.Proofs.Text.Blank
import ProseTree.Proofs.Text.Cutting
import ProseTree.Proofs.Text.LineEnds
import ProseTree.Proofs.Text.Lines
import ProseTree.Proofs.Text.LowerCase
import ProseTree.Proofs.Text.Quoted
import ProseTree.Proofs.Text.Spans
import ProseTree.Proofs.Text.Tokens
import ProseTree.Proofs.Text.Unspaced
import ProseTree.Proofs.Toml.Lines
import ProseTree.Proofs.Toml.Strings
import ProseTree.Proofs.Toml.Tables
import ProseTree.Proofs.Tree.Edits
import ProseTree.Proofs.Tree.Leaves
import ProseTree.Proofs.Tree.Levels
import ProseTree.Proofs.Tree.Listing
import ProseTree.Proofs.Tree.Rendering
import ProseTree.Proofs.Tree.Sameness
import ProseTree.Proofs.Tree.WellFormed
import ProseTree.Reader
import ProseTree.Reading.Chain
import ProseTree.Reading.Gap
import ProseTree.Reading.Inner
import ProseTree.Reading.Outer
import ProseTree.Reading.Schedule
import ProseTree.Reading.Standard
import ProseTree.Text.Basic
import ProseTree.Text.Case
import ProseTree.Text.CaseTable
import ProseTree.Text.CodePointSet
import ProseTree.Text.DecimalDigit
import ProseTree.Text.Hexadecimal
import ProseTree.Text.Printable
import ProseTree.Text.Quoted
import ProseTree.Toml.Document
import ProseTree.Toml.Moment
import ProseTree.Toml.Number
import ProseTree.Toml.Strings
import ProseTree.Toml.Table
import ProseTree.Tree.Checked
import ProseTree.Tree.Document
import ProseTree.Tree.Node
import ProseTree.Tree.Rendering
import ProseTree.Tree.SymbolClass
