import BankQuery.Candidate.Format
import BankQuery.Main
import BankQuery.Proofs.Calendar.Listing
import BankQuery.Proofs.Calendar.Months
import BankQuery.Proofs.Calendar.Range
import BankQuery.Proofs.Calendar.Relative
import BankQuery.Proofs.Calendar.Span
import BankQuery.Proofs.Calendar.Text
import BankQuery.Proofs.Calendar.Trailing
import BankQuery.Proofs.Calendar.Years
import BankQuery.Proofs.Candidate.Acceptance
import BankQuery.Proofs.Candidate.Numbering
import BankQuery.Proofs.Candidate.Serving
import BankQuery.Proofs.Candidate.Statement
import BankQuery.Proofs.Candidate.Template
import BankQuery.Proofs.Candidate.Wording
import BankQuery.Proofs.Chart.Places
import BankQuery.Proofs.Chart.Ranking
import BankQuery.Proofs.Chart.TimeSeries
import BankQuery.Proofs.Engine.Calls
import BankQuery.Proofs.Engine.Database
import BankQuery.Proofs.Engine.Discretion
import BankQuery.Proofs.Engine.Keeping
import BankQuery.Proofs.Engine.Refresh
import BankQuery.Proofs.Engine.Results
import BankQuery.Proofs.Engine.Runs
import BankQuery.Proofs.Guard.Constants
import BankQuery.Proofs.Guard.Frame
import BankQuery.Proofs.Guard.Functions
import BankQuery.Proofs.Guard.Names
import BankQuery.Proofs.Guard.Nesting
import BankQuery.Proofs.Guard.Placeholders
import BankQuery.Proofs.Guard.Reports
import BankQuery.Proofs.Guard.Steps
import BankQuery.Proofs.Guard.TimeBound
import BankQuery.Proofs.Guard.Truth
import BankQuery.Proofs.Guard.Words
import BankQuery.Proofs.Json.Reading
import BankQuery.Proofs.Number.Arithmetic
import BankQuery.Proofs.Number.Order
import BankQuery.Proofs.Number.Rounding
import BankQuery.Proofs.Question.Aliases
import BankQuery.Proofs.Question.Conversation
import BankQuery.Proofs.Question.FollowUp
import BankQuery.Proofs.Question.Key
import BankQuery.Proofs.Question.Naming
import BankQuery.Proofs.Question.Offers
import BankQuery.Proofs.Question.Repeated
import BankQuery.Proofs.Question.Segmentation
import BankQuery.Proofs.Question.Turns
import BankQuery.Proofs.Registry.Consistency
import BankQuery.Proofs.Registry.Lookups
import BankQuery.Proofs.Registry.StandardAliases
import BankQuery.Proofs.Retrieval.Contents
import BankQuery.Proofs.Retrieval.Examples
import BankQuery.Proofs.Retrieval.Grounding
import BankQuery.Proofs.Retrieval.Hits
import BankQuery.Proofs.Sorting
import BankQuery.Proofs.Sql.Conditions
import BankQuery.Proofs.Sql.Operands
import BankQuery.Proofs.Sql.Ordinary
import BankQuery.Proofs.Sql.Parts
import BankQuery.Proofs.Sql.Pieces
import BankQuery.Proofs.Sql.Readers
import BankQuery.Proofs.Sql.Reading
import BankQuery.Proofs.Sql.Report
import BankQuery.Proofs.Text.Likeness
import BankQuery.Proofs.Text.Match
import BankQuery.Proofs.Text.NormalForm
import BankQuery.Proofs.Text.Pairing
import BankQuery.Proofs.Text.Phrases
import BankQuery.Proofs.Text.Scan
import BankQuery.Proofs.Text.Words
import BankQuery.Retrieval.Format
