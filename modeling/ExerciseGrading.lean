/-
  EXERCISE GRADING: checks on submitted texts, rules, verdicts, hints, simulated terminals, the
  snippet language that checks are written in, and the formats that records come in.
-/
import ExerciseGrading.Catalog
import ExerciseGrading.Catalog.Cache
import ExerciseGrading.Catalog.Store
import ExerciseGrading.Check
import ExerciseGrading.Check.Evaluate
import ExerciseGrading.Check.Explain
import ExerciseGrading.Check.Lint
import ExerciseGrading.Check.Record
import ExerciseGrading.CommandLine
import ExerciseGrading.CommandLine.Arguments
import ExerciseGrading.CommandLine.Report
import ExerciseGrading.CommandLine.Run
import ExerciseGrading.Config
import ExerciseGrading.Document
import ExerciseGrading.Document.Path
import ExerciseGrading.Engine
import ExerciseGrading.Exercise
import ExerciseGrading.Exercise.File
import ExerciseGrading.Exercise.Record
import ExerciseGrading.Exercise.Terminal
import ExerciseGrading.Exercise.Verdict
import ExerciseGrading.Failure
import ExerciseGrading.Json
import ExerciseGrading.Json.Reader
import ExerciseGrading.Keyed
import ExerciseGrading.Locale
import ExerciseGrading.Main
import ExerciseGrading.Number.Binary64
import ExerciseGrading.Number.Notation
import ExerciseGrading.Number.Numeral
import ExerciseGrading.Number.Reading
import ExerciseGrading.Number.Shortest
import ExerciseGrading.Number.Word
import ExerciseGrading.Pattern
import ExerciseGrading.Pattern.Machine
import ExerciseGrading.Pattern.Node
import ExerciseGrading.Pattern.Property
import ExerciseGrading.Pattern.Reader
import ExerciseGrading.Pattern.Search
import ExerciseGrading.Pattern.Tree
import ExerciseGrading.Proofs.Catalog.History
import ExerciseGrading.Proofs.Catalog.Interleaving
import ExerciseGrading.Proofs.Catalog.Invalidation
import ExerciseGrading.Proofs.Catalog.Staleness
import ExerciseGrading.Proofs.Check.DocumentLeaves
import ExerciseGrading.Proofs.Check.Faults
import ExerciseGrading.Proofs.Check.Laws
import ExerciseGrading.Proofs.Check.Normalization
import ExerciseGrading.Proofs.Check.Readers
import ExerciseGrading.Proofs.Check.Reasons
import ExerciseGrading.Proofs.Check.RoundTrip
import ExerciseGrading.Proofs.Document.Equality
import ExerciseGrading.Proofs.Document.Paths
import ExerciseGrading.Proofs.Document.Queries
import ExerciseGrading.Proofs.Document.Walks
import ExerciseGrading.Proofs.Exercise.RoundTrip
import ExerciseGrading.Proofs.Exercise.Routing
import ExerciseGrading.Proofs.Exercise.Verdicts
import ExerciseGrading.Proofs.Keyed.Collected
import ExerciseGrading.Proofs.Keyed.Records
import ExerciseGrading.Proofs.Number.Rounding
import ExerciseGrading.Proofs.Number.WholeParts
import ExerciseGrading.Proofs.Pattern.Building
import ExerciseGrading.Proofs.Pattern.Reading
import ExerciseGrading.Proofs.Pattern.Ways
import ExerciseGrading.Proofs.Record.Order
import ExerciseGrading.Proofs.Snippet.Alongside
import ExerciseGrading.Proofs.Snippet.Around
import ExerciseGrading.Proofs.Snippet.CallingBack
import ExerciseGrading.Proofs.Snippet.Calls
import ExerciseGrading.Proofs.Snippet.Denylist
import ExerciseGrading.Proofs.Snippet.Elsewhere
import ExerciseGrading.Proofs.Snippet.Frame
import ExerciseGrading.Proofs.Snippet.Grouping
import ExerciseGrading.Proofs.Snippet.Labels
import ExerciseGrading.Proofs.Snippet.Laying
import ExerciseGrading.Proofs.Snippet.Limits
import ExerciseGrading.Proofs.Snippet.Lockstep
import ExerciseGrading.Proofs.Snippet.Matching
import ExerciseGrading.Proofs.Snippet.Mentioned
import ExerciseGrading.Proofs.Snippet.Mentions
import ExerciseGrading.Proofs.Snippet.Methods
import ExerciseGrading.Proofs.Snippet.Moved
import ExerciseGrading.Proofs.Snippet.Nodes
import ExerciseGrading.Proofs.Snippet.Padding
import ExerciseGrading.Proofs.Snippet.Places
import ExerciseGrading.Proofs.Snippet.Quoting
import ExerciseGrading.Proofs.Snippet.Reading
import ExerciseGrading.Proofs.Snippet.Rooted
import ExerciseGrading.Proofs.Snippet.Screening
import ExerciseGrading.Proofs.Snippet.Searching
import ExerciseGrading.Proofs.Snippet.Simulation
import ExerciseGrading.Proofs.Snippet.Slicing
import ExerciseGrading.Proofs.Snippet.Spans
import ExerciseGrading.Proofs.Snippet.Splitting
import ExerciseGrading.Proofs.Snippet.Termination
import ExerciseGrading.Proofs.Snippet.WholeWords
import ExerciseGrading.Proofs.Text.Occurrences
import ExerciseGrading.Proofs.Text.Ranges
import ExerciseGrading.Proofs.Text.Slices
import ExerciseGrading.Record
import ExerciseGrading.Snippet.Context
import ExerciseGrading.Snippet.Evaluate
import ExerciseGrading.Snippet.Expr
import ExerciseGrading.Snippet.Grammar
import ExerciseGrading.Snippet.Layout
import ExerciseGrading.Snippet.ListMethod
import ExerciseGrading.Snippet.Literal
import ExerciseGrading.Snippet.Native
import ExerciseGrading.Snippet.Operation
import ExerciseGrading.Snippet.Operators
import ExerciseGrading.Snippet.Outcome
import ExerciseGrading.Snippet.Screen
import ExerciseGrading.Snippet.TextMethod
import ExerciseGrading.Snippet.Value
import ExerciseGrading.Span
import ExerciseGrading.Storage
import ExerciseGrading.Storage.Folder
import ExerciseGrading.Text.Blank
import ExerciseGrading.Text.LetterCase
import ExerciseGrading.Text.LetterCase.Data
import ExerciseGrading.Text.Place
import ExerciseGrading.Text.Property.Age
import ExerciseGrading.Text.Property.Binary
import ExerciseGrading.Text.Property.Category
import ExerciseGrading.Text.Property.Script
import ExerciseGrading.Text.Property.Segmentation
import ExerciseGrading.Text.Quoted
import ExerciseGrading.Text.Ranges
import ExerciseGrading.Text.Search
import ExerciseGrading.Yaml.Cursor
import ExerciseGrading.Yaml.Node
import ExerciseGrading.Yaml.Scalar
import ExerciseGrading.Yaml.Tag
import ExerciseGrading.Yaml.Token
