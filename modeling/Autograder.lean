import Autograder.Codec.Basic
import Autograder.Codec.Grading
import Autograder.Codec.Record
import Autograder.Codec.Report
import Autograder.CommandLine.Arguments
import Autograder.CommandLine.Invocation
import Autograder.CommandLine.Plan
import Autograder.Decimal.Plain
import Autograder.Decimal.Scientific
import Autograder.Decimal.Shortest
import Autograder.Grading.Case
import Autograder.Grading.CaseList
import Autograder.Grading.Display
import Autograder.Grading.Execution
import Autograder.Grading.Grader
import Autograder.Grading.Output
import Autograder.Grading.Report
import Autograder.Grading.Sandbox
import Autograder.Grading.SandboxConfig
import Autograder.Grading.Score
import Autograder.Grading.Store
import Autograder.Grading.Submission
import Autograder.Grading.Tally
import Autograder.Grading.Validation
import Autograder.Grading.Verdict
import Autograder.Guest.Arithmetic
import Autograder.Guest.Condition
import Autograder.Guest.Expression
import Autograder.Guest.Line
import Autograder.Guest.Machine
import Autograder.Guest.Program
import Autograder.Guest.Quoted
import Autograder.Guest.Scan
import Autograder.Guest.Statement
import Autograder.Guest.Template
import Autograder.Guest.Term
import Autograder.Guest.Token
import Autograder.Guest.Value
import Autograder.Instant
import Autograder.Json.Basic
import Autograder.Json.Numeral
import Autograder.Json.Reader
import Autograder.Json.Writer
import Autograder.Main
import Autograder.Proofs.Program.Source
import Autograder.Proofs.Text.Lines
import Autograder.Proofs.Text.Trim
import Autograder.Service.Answer
import Autograder.Service.Application
import Autograder.Service.Config
import Autograder.Service.MediaType
import Autograder.Service.Metrics
import Autograder.Service.ResultCache
import Autograder.Service.Route
import Autograder.Table
import Autograder.Text.Blank
import Autograder.Text.CaseTables
import Autograder.Text.Casing
import Autograder.Text.Cut
import Autograder.Text.Hex
import Autograder.Text.Letter
import Autograder.Text.Numeral
import Autograder.Text.Percent
import Autograder.Text.Spans
import Autograder.Uuid
import Autograder.Proofs.Program.Run
import Autograder.Proofs.Program.Structured
import Autograder.Proofs.Program.Recovery
import Autograder.Proofs.Term.Grammar
import Autograder.Proofs.Term.Printing
import Autograder.Proofs.Text.Classes
import Autograder.Proofs.Expression.Printed
import Autograder.Proofs.Grading.Aggregates
import Autograder.Proofs.Grading.Independence
import Autograder.Proofs.Store.History
import Autograder.Proofs.Grading.Redaction
import Autograder.Proofs.Grading.Disclosure
import Autograder.Proofs.Grading.Sessions
import Autograder.Proofs.Program.Moments
import Autograder.Proofs.Program.Lockstep
import Autograder.Proofs.Program.Input
import Autograder.Proofs.Program.Beginnings
import Autograder.Proofs.Program.Outline
import Autograder.Proofs.Program.Order
import Autograder.Proofs.Program.Cancellation
import Autograder.Proofs.Program.Quotation
import Autograder.Proofs.Grading.Interleaving
import Autograder.Proofs.Grading.Sample
import Autograder.Proofs.Service.Calls
import Autograder.Proofs.Service.Counters
import Autograder.Proofs.Text.Identifiers
import Autograder.Proofs.Service.Record
import Autograder.Proofs.Json.Reading
import Autograder.Proofs.Codec.RoundTrip
import Autograder.Proofs.Program.LineEndings
import Autograder.Proofs.Program.Effects
import Autograder.Proofs.Program.WellFormed
import Autograder.Proofs.Expression.Faults
import Autograder.Proofs.Scan.Closing
import Autograder.Proofs.Program.OutputCap
import Autograder.Proofs.Decimal.Length
import Autograder.Proofs.Expression.Written
import Autograder.Proofs.Expression.Size
import Autograder.Proofs.Program.ValueSize
import Autograder.Proofs.Grading.Reports
import Autograder.Proofs.Text.AnyEnding
import Autograder.Proofs.Grading.NormalForm
import Autograder.Proofs.Binary64.Whole
import Autograder.Proofs.Grading.FinalScore
import Autograder.Proofs.Arithmetic.Steps
import Autograder.Proofs.Expression.Agreement
import Autograder.Proofs.Expression.Methods
import Autograder.Proofs.Expression.Conditions
import Autograder.Proofs.Arithmetic.Comparisons
import Autograder.Proofs.Expression.Templates
import Autograder.Proofs.Expression.Literals
import Autograder.Proofs.Arithmetic.Texts
import Autograder.Proofs.Grading.Denylist
import Autograder.Proofs.Program.Recognition
import Autograder.Proofs.Program.FieldReads
import Autograder.Proofs.Program.Assignments
import Autograder.Proofs.Text.SmallForms
import Autograder.Proofs.Grading.Presentation
import Autograder.Proofs.Service.SharedKeys
import Autograder.Proofs.Grading.Rows
import Autograder.Proofs.Program.NumberReads
import Autograder.Proofs.Scan.Pieces
import Autograder.Proofs.Program.Arguments
import Autograder.Proofs.Program.LineSize
