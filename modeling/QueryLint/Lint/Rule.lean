import QueryLint.Lint.Diagnostic
import QueryLint.Tracking.Site

/-!
# Rules

A `Rule` has a handler for every kind of node that it looks at. A handler sees a node and what is in
force there, and says what it finds, as messages.
-/

namespace QueryLint

/-- What a rule does at a node: the messages it has about it. -/
abbrev Handler := Site → List String

/-- A rule: its name, what it is for, how serious it is by default, and its handlers. -/
structure Rule where
  name : String
  description : String
  severity : Severity
  handlers : List (NodeKind × Handler)

namespace Rule

/-- The kinds of node that a rule looks at, in the order of its handlers. -/
def kinds (rule : Rule) : List NodeKind := rule.handlers.map Prod.fst

/-- The messages of a rule about a node, handler by handler. -/
def messages (rule : Rule) (site : Site) : List String :=
  rule.handlers.flatMap fun (kind, handler) ↦ if kind = site.node.kind then handler site else []

/-- The diagnostics of a rule about a node, at some severity. -/
def check (rule : Rule) (severity : Severity) (site : Site) : List Diagnostic :=
  (rule.messages site).map fun message ↦ ⟨message, rule.name, severity, [site.node.toRef]⟩

end Rule

end QueryLint
