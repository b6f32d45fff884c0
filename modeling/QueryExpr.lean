import QueryExpr.Build
import QueryExpr.Calendar.Basic
import QueryExpr.Calendar.Reader
import QueryExpr.CommandLine.Arguments
import QueryExpr.CommandLine.Run
import QueryExpr.Config
import QueryExpr.Diagnostic.Basic
import QueryExpr.Diagnostic.BuildError
import QueryExpr.Diagnostic.Code
import QueryExpr.Expression.Basic
import QueryExpr.Expression.Outline
import QueryExpr.Frame
import QueryExpr.Json.Basic
import QueryExpr.Json.Printer
import QueryExpr.Json.Reader
import QueryExpr.Json.Record
import QueryExpr.Keyword
import QueryExpr.Literal.Basic
import QueryExpr.Literal.Quoted
import QueryExpr.Literal.Temporal
import QueryExpr.Number.Decimal
import QueryExpr.Number.Digits
import QueryExpr.Number.Magnitude
import QueryExpr.Outline.Basic
import QueryExpr.Outline.Format
import QueryExpr.Outline.Printer
import QueryExpr.Proofs.Build.Inversion
import QueryExpr.Proofs.Build.Narrowing
import QueryExpr.Proofs.Predicate.Truth
import QueryExpr.Proofs.Traced
import QueryExpr.Registry.Alias
import QueryExpr.Registry.Entity
import QueryExpr.Registry.Enum
import QueryExpr.Registry.Function
import QueryExpr.Registry.Listing
import QueryExpr.Registry.Macros
import QueryExpr.Registry.Table
import QueryExpr.Resolve.Call
import QueryExpr.Resolve.Context
import QueryExpr.Resolve.Error
import QueryExpr.Resolve.Fault
import QueryExpr.Resolve.Name
import QueryExpr.Resolve.Traced
import QueryExpr.Resolve.Window
import QueryExpr.Session
import QueryExpr.Source.Span
import QueryExpr.Syntax.Basic
import QueryExpr.Syntax.Construct
import QueryExpr.Syntax.Decode
import QueryExpr.Syntax.Encode
import QueryExpr.Terminal.Style
import QueryExpr.Text.Blank
import QueryExpr.Text.Case
import QueryExpr.Text.CaseTable
import QueryExpr.Text.Dotted
import QueryExpr.Text.Hex
import QueryExpr.Text.Invisible
import QueryExpr.UsedMacros
import QueryExpr.Main
import QueryExpr.Proofs.Build.Truth
import QueryExpr.Proofs.Build.Quantified
import QueryExpr.Proofs.Build.Concatenation
import QueryExpr.Proofs.Session.Request
import QueryExpr.Proofs.Build.Permissive
import QueryExpr.Proofs.Build.Counter
import QueryExpr.Proofs.Build.Faults
import QueryExpr.Proofs.Syntax.Nesting
import QueryExpr.Proofs.Build.Nesting
import QueryExpr.Proofs.Build.Rules
import QueryExpr.Proofs.Build.NormalForm
import QueryExpr.Proofs.Build.Shape
import QueryExpr.Proofs.Syntax.Spans
import QueryExpr.Proofs.Build.Placement
import QueryExpr.Proofs.Syntax.Grammar
import QueryExpr.Proofs.Build.Blame
import QueryExpr.Proofs.Build.Flags
import QueryExpr.Proofs.Registry.Enum
import QueryExpr.Proofs.Build.Resolved
import QueryExpr.Proofs.Registry.Lookup
import QueryExpr.Proofs.Source.Span
import QueryExpr.Proofs.Session.Location
import QueryExpr.Proofs.Build.Wrapping
import QueryExpr.Proofs.Session.Log
import QueryExpr.Proofs.Registry.Entity
import QueryExpr.Proofs.Build.Marks
import QueryExpr.Proofs.Build.Constants
import QueryExpr.Proofs.Build.Links
import QueryExpr.Proofs.Resolve.Arguments
import QueryExpr.Proofs.Build.References
import QueryExpr.Proofs.Resolve.Clauses
import QueryExpr.Proofs.Resolve.Naming
import QueryExpr.Proofs.Build.Assembly
import QueryExpr.Proofs.Literal.Quoted
import QueryExpr.Proofs.Resolve.Spelling
import QueryExpr.Proofs.Predicate.Join
import QueryExpr.Proofs.Build.Room
import QueryExpr.Proofs.Build.Chains
import QueryExpr.Proofs.Build.Negation
import QueryExpr.Proofs.Build.TypeComparison
import QueryExpr.Proofs.Source.Position
import QueryExpr.Proofs.Resolve.Builtins
import QueryExpr.Proofs.Build.Abbreviations
import QueryExpr.Proofs.Json.Number
import QueryExpr.Proofs.Json.Text
import QueryExpr.Proofs.Json.Form
import QueryExpr.Proofs.Syntax.Form
import QueryExpr.Proofs.Syntax.RoundTrip
import QueryExpr.Proofs.Registry.Rendering
