import QueryLint.Config.Apply
import QueryLint.Config.Basic
import QueryLint.Config.Decode
import QueryLint.Config.DecodeError
import QueryLint.Config.Encode
import QueryLint.Config.Text
import QueryLint.Json.Reader
import QueryLint.Json.Value
import QueryLint.Json.Writer
import QueryLint.Language.Document
import QueryLint.Language.Grammar.Document
import QueryLint.Language.Grammar.Executable
import QueryLint.Language.Grammar.TypeSystem
import QueryLint.Language.Grammar.Value
import QueryLint.Language.Lexeme
import QueryLint.Language.Problem
import QueryLint.Language.Reading
import QueryLint.Language.Scan
import QueryLint.Language.StringValue
import QueryLint.Language.Token
import QueryLint.Lint.Catalogue
import QueryLint.Lint.Diagnostic
import QueryLint.Lint.Dispatcher
import QueryLint.Lint.Linter
import QueryLint.Lint.Rule
import QueryLint.Lint.Rules.Deprecated
import QueryLint.Lint.Rules.OperationNames
import QueryLint.Lint.Rules.RequiredFields
import QueryLint.Lint.Rules.TypeNames
import QueryLint.Number.Binary64
import QueryLint.Number.Decimal
import QueryLint.Proofs.Config.Assembly
import QueryLint.Proofs.Config.Enabled
import QueryLint.Proofs.Config.Forms
import QueryLint.Proofs.Config.Grammar
import QueryLint.Proofs.Config.Options
import QueryLint.Proofs.Config.Order
import QueryLint.Proofs.Config.Override
import QueryLint.Proofs.Config.RoundTrip
import QueryLint.Proofs.Grammar.Document
import QueryLint.Proofs.Grammar.Executable
import QueryLint.Proofs.Grammar.Reading
import QueryLint.Proofs.Grammar.TypeSystem
import QueryLint.Proofs.Grammar.Value
import QueryLint.Proofs.Lint.BuiltIn
import QueryLint.Proofs.Lint.Deprecation
import QueryLint.Proofs.Lint.Dispatch
import QueryLint.Proofs.Lint.Enlisting
import QueryLint.Proofs.Lint.Findings
import QueryLint.Proofs.Lint.Fitting
import QueryLint.Proofs.Lint.Grouping
import QueryLint.Proofs.Lint.Growth
import QueryLint.Proofs.Lint.Order
import QueryLint.Proofs.Lint.Requirement
import QueryLint.Proofs.Lint.Separation
import QueryLint.Proofs.Outcome
import QueryLint.Proofs.Schema.Contents
import QueryLint.Proofs.Schema.Declarations
import QueryLint.Proofs.Schema.Extensions
import QueryLint.Proofs.Schema.Failure
import QueryLint.Proofs.Schema.Fitting
import QueryLint.Proofs.Schema.Inclusion
import QueryLint.Proofs.Schema.Kinds
import QueryLint.Proofs.Schema.Merging
import QueryLint.Proofs.Schema.Order
import QueryLint.Proofs.Schema.Resolution
import QueryLint.Proofs.Schema.Wrappers
import QueryLint.Proofs.Table
import QueryLint.Proofs.Text.ByteOrder
import QueryLint.Proofs.Tracking.Agreement
import QueryLint.Proofs.Tracking.Brackets
import QueryLint.Proofs.Tracking.Calls
import QueryLint.Proofs.Tracking.Descent
import QueryLint.Proofs.Tracking.DirectiveArguments
import QueryLint.Proofs.Tracking.Fitting
import QueryLint.Proofs.Tracking.Inclusion
import QueryLint.Proofs.Tracking.Lists
import QueryLint.Proofs.Tracking.Nesting
import QueryLint.Proofs.Tracking.Provenance
import QueryLint.Proofs.Tracking.Scopes
import QueryLint.Proofs.Walk.Enumeration
import QueryLint.Proofs.Walk.Heads
import QueryLint.Proofs.Walk.Layout
import QueryLint.Proofs.Walk.Order
import QueryLint.Proofs.Walk.Places
import QueryLint.Proofs.Walk.Requests
import QueryLint.Proofs.Walk.Rows
import QueryLint.Schema.Basic
import QueryLint.Schema.InForce
import QueryLint.Schema.Load
import QueryLint.Schema.Sample
import QueryLint.Schema.TypeDef
import QueryLint.Schema.TypeRef
import QueryLint.Session
import QueryLint.Table
import QueryLint.Text.Blank
import QueryLint.Text.Printable
import QueryLint.Text.Quoted
import QueryLint.Text.Span
import QueryLint.Tracking.Site
import QueryLint.Tracking.Tracker
import QueryLint.Walk.Event
import QueryLint.Walk.Node
import QueryLint.Walk.Requested
import QueryLint.Proofs.Schema.Layers
import QueryLint.Proofs.Lint.Availability
import QueryLint.Proofs.Grammar.Shorthand
import QueryLint.Proofs.Lint.Names
import QueryLint.Proofs.Schema.Roots
import QueryLint.Proofs.Tracking.Operations
import QueryLint.Proofs.Lint.Listing
import QueryLint.Proofs.Walk.Reach
import QueryLint.Proofs.Grammar.Scanning
import QueryLint.Proofs.Text.Trimming
import QueryLint.Proofs.Grammar.Tokens
import QueryLint.Proofs.Schema.Notation
import QueryLint.Proofs.Schema.Descriptions
import QueryLint.Proofs.Tracking.Variables
