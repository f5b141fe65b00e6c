import QueryLint.Walk.Node

/-!
# Diagnostics

A `Diagnostic` says what a rule found and at which nodes. `Diagnostic.listing` numbers a list of
them, one line each.
-/

namespace QueryLint

/-- How serious a finding is. -/
inductive Severity where
  | error
  | warning
  | info
  deriving DecidableEq, Repr

/-- The word for a severity. -/
def Severity.word : Severity → String
  | error => "error"
  | warning => "warning"
  | info => "info"

/-- The severity that a word means. -/
def Severity.ofWord? : String → Option Severity
  | "error" => some error
  | "warning" => some warning
  | "info" => some info
  | _ => none

/-- What a rule found, and where. -/
structure Diagnostic where
  message : String
  rule : String
  severity : Severity
  nodes : List NodeRef
  deriving DecidableEq, Repr

namespace Diagnostic

/-- The range of the first node. -/
def span? (diagnostic : Diagnostic) : Option Span :=
  diagnostic.nodes.head?.map (·.span)

/-- A diagnostic as one line: its severity, its rule and its message. -/
def render (diagnostic : Diagnostic) : String :=
  diagnostic.severity.word ++ " [" ++ diagnostic.rule ++ "]: " ++ diagnostic.message

/-- The lines of a list, numbered from `first` on. -/
def numberedFrom (first : Nat) : List String → List String
  | [] => []
  | line :: rest => ("[" ++ toString first ++ "] " ++ line) :: numberedFrom (first + 1) rest

/-- Lines numbered from 1, or a note that there are none. -/
def numbered (lines : List String) : String :=
  if lines.isEmpty then "(no diagnostics)" else String.intercalate "\n" (numberedFrom 1 lines)

/-- A list of diagnostics, numbered. -/
def listing (diagnostics : List Diagnostic) : String :=
  numbered (diagnostics.map render)

end Diagnostic

end QueryLint
