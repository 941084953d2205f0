import Colloquy.CommandLine.Parameter
import Colloquy.CommandLine.Request
import Colloquy.CommandLine.Session
import Colloquy.CommandLine.Source
import Colloquy.Console
import Colloquy.Conversation
import Colloquy.Dialogue.Basic
import Colloquy.Dialogue.Holding
import Colloquy.Dialogue.Keyword
import Colloquy.Dialogue.Outline
import Colloquy.Dialogue.Outline.Data
import Colloquy.Dialogue.Outline.Markup
import Colloquy.Dialogue.Part
import Colloquy.Dialogue.Response
import Colloquy.Dialogue.Source
import Colloquy.Document
import Colloquy.Expr.Eval
import Colloquy.Expr.Lexeme
import Colloquy.Expr.Operand
import Colloquy.Expr.Token
import Colloquy.Expr.Tree
import Colloquy.Fault
import Colloquy.Folder
import Colloquy.Input
import Colloquy.Interchange
import Colloquy.Json
import Colloquy.Json.Numeral
import Colloquy.Json.Record
import Colloquy.Json.Token
import Colloquy.Json.Tree
import Colloquy.Main
import Colloquy.Markup.Chars
import Colloquy.Markup.Content
import Colloquy.Markup.Token
import Colloquy.Markup.Tree
import Colloquy.Path
import Colloquy.Random
import Colloquy.Script.Action
import Colloquy.Script.Answer
import Colloquy.Script.Create
import Colloquy.Script.Effect
import Colloquy.Script.Inspect
import Colloquy.Script.Scope
import Colloquy.Script.Session
import Colloquy.Script.State
import Colloquy.Script.Template
import Colloquy.Script.Walk
import Colloquy.Table
import Colloquy.Talk
import Colloquy.Talk.Session
import Colloquy.Talk.Speech
import Colloquy.Talk.Window
import Colloquy.Text.CharClass
import Colloquy.Text.Decimal
import Colloquy.Text.Lowercase
import Colloquy.Text.Lowercase.Table
import Colloquy.Text.Printed
import Colloquy.Text.Quoted
import Colloquy.Text.Quoted.Table
import Colloquy.Text.Trim
import Colloquy.Text.Wrap
import Colloquy.Value
import Colloquy.Proofs.Expr.Grammar
import Colloquy.Proofs.Expr.Lexing
import Colloquy.Proofs.Expr.Reading
import Colloquy.Proofs.Expr.Meaning
import Colloquy.Proofs.Expr.Concurrence
import Colloquy.Proofs.Document
import Colloquy.Proofs.Script.Deed
import Colloquy.Proofs.Script.Coherence
import Colloquy.Proofs.Script.Guard
import Colloquy.Proofs.Script.Performance
import Colloquy.Proofs.Script.Loop
import Colloquy.Proofs.Script.Simulation
import Colloquy.Proofs.Script.Calls
import Colloquy.Proofs.Script.Ending
import Colloquy.Proofs.Script.InPlace
import Colloquy.Proofs.Script.Iteration
import Colloquy.Proofs.Script.Suspension
import Colloquy.Proofs.Script.Drawing
import Colloquy.Proofs.Script.Insist
import Colloquy.Proofs.Script.Finish
import Colloquy.Proofs.Text.Trim
import Colloquy.Proofs.Text.Lowercase
import Colloquy.Proofs.Dialogue.Keyword
import Colloquy.Proofs.Talk.Exchange
import Colloquy.Proofs.Console
import Colloquy.Proofs.Talk.Session
import Colloquy.Proofs.Talk.Window
import Colloquy.Proofs.Dialogue.Holding
import Colloquy.Proofs.Dialogue.Outline
import Colloquy.Proofs.Text.Split
import Colloquy.Proofs.Dialogue.Data
import Colloquy.Proofs.Dialogue.Markup
import Colloquy.Proofs.Dialogue.Notation
import Colloquy.Proofs.Script.Session
import Colloquy.Proofs.Script.Unset
import Colloquy.Proofs.Document.Numbering
import Colloquy.Proofs.Document.Arena
import Colloquy.Proofs.Markup.Tree
import Colloquy.Proofs.Script.Beats
import Colloquy.Proofs.Script.Terms
import Colloquy.Proofs.Script.Passes
import Colloquy.Proofs.Script.Blocks
import Colloquy.Proofs.Script.Choice
import Colloquy.Proofs.Script.Assignment
import Colloquy.Proofs.Script.Splicing
import Colloquy.Proofs.Script.Exactness
import Colloquy.Proofs.Script.Composition
import Colloquy.Proofs.Script.Inclusion
import Colloquy.Proofs.Script.Answers
import Colloquy.Proofs.Script.Options
import Colloquy.Proofs.Dialogue.Continuation
import Colloquy.Proofs.Talk.Rendering
import Colloquy.Proofs.Dialogue.Sharing
import Colloquy.Proofs.Script.Bracketing
import Colloquy.Proofs.Random.Uniformity
import Colloquy.Proofs.Dialogue.Regeneration
import Colloquy.Proofs.Document.Search
import Colloquy.Proofs.Random.Period
import Colloquy.Proofs.Script.Redirection
import Colloquy.Proofs.Talk.Regeneration
import Colloquy.Proofs.Expr.Spelling
import Colloquy.Proofs.Dialogue.Reaction
import Colloquy.Proofs.Talk.Speech
import Colloquy.Proofs.Text.Wrap
import Colloquy.Proofs.Expr.Comparison
import Colloquy.Proofs.Text.Layout
import Colloquy.Proofs.Dialogue.Layout
import Colloquy.Script.Slate
import Colloquy.Script.Slate.Action
import Colloquy.Script.Slate.Walk
import Colloquy.Proofs.Slate.Action
import Colloquy.Proofs.Slate.Walk
import Colloquy.Proofs.Slate.Coherence
import Colloquy.Proofs.Slate.Failure
