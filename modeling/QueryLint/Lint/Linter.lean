import QueryLint.Language.Grammar.Document
import QueryLint.Lint.Dispatcher

/-!
# Linting documents

A `Linter` is a list of rules, each at a severity. It checks a document site by site in the order of
the walk, through one dispatcher for all its rules.
-/

namespace QueryLint

open QueryLint.Language

/-- A rule at a severity. -/
structure ActiveRule where
  rule : Rule
  severity : Severity

/-- The rules to check a document with, in order. -/
structure Linter where
  rules : List ActiveRule

namespace Linter

/-- The linter without rules. -/
def empty : Linter := ⟨[]⟩

/-- Add a rule at a severity. -/
def add (linter : Linter) (rule : Rule) (severity : Severity) : Linter :=
  ⟨linter.rules ++ [⟨rule, severity⟩]⟩

/-- The names of the rules. -/
def ruleNames (linter : Linter) : List String :=
  linter.rules.map (·.rule.name)

/-- The handlers of all rules, added in the order of the rules. -/
def dispatcher (linter : Linter) : Dispatcher :=
  linter.rules.foldl (fun dispatcher active ↦ dispatcher.add active.rule active.severity) .empty

/-- Whether some rule looks at nodes of a kind. -/
def handles (linter : Linter) (kind : NodeKind) : Bool :=
  linter.dispatcher.handles kind

/-- What the rules find at a site. -/
def checkSite (linter : Linter) (site : Site) : List Diagnostic :=
  linter.dispatcher.dispatch site

/-- What the rules find in a document. -/
def check (linter : Linter) (schema : Schema) (document : Document) : List Diagnostic :=
  let dispatcher := linter.dispatcher
  (document.sites schema).flatMap dispatcher.dispatch

/-- What the rules find in a text. A text that is not a document is not checked. -/
def checkText (linter : Linter) (schema : Schema) (text : String) : List Diagnostic :=
  match Document.read text with
  | .ok document => linter.check schema document
  | .error _ => []

end Linter

end QueryLint
