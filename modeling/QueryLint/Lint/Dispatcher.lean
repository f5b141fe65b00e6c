import QueryLint.Lint.Rule

/-!
# Dispatching nodes to handlers

A `Dispatcher` holds the handlers of any number of rules, grouped by the kind of node that they are
for. A group keeps the order in which its handlers came in; what a node is dispatched to is the
group of its kind.
-/

namespace QueryLint

/-- A handler with the rule and the severity that it reports under. -/
structure Registration where
  rule : String
  severity : Severity
  handler : Handler

/-- What a registered handler reports at a node. -/
def Registration.reports (registration : Registration) (site : Site) : List Diagnostic :=
  (registration.handler site).map fun message ↦
    ⟨message, registration.rule, registration.severity, [site.node.toRef]⟩

/-- Handlers in groups, one for each kind of node that has any. -/
structure Dispatcher where
  groups : List (NodeKind × List Registration)

namespace Dispatcher

/-- The dispatcher without handlers. -/
def empty : Dispatcher := ⟨[]⟩

/-- Put a handler at the end of the group of a kind; a kind without a group gets one. -/
def enroll (kind : NodeKind) (registration : Registration) :
    List (NodeKind × List Registration) → List (NodeKind × List Registration)
  | [] => [(kind, [registration])]
  | group :: rest =>
    if group.1 = kind then (kind, group.2 ++ [registration]) :: rest
    else group :: enroll kind registration rest

/-- Add one handler for nodes of a kind. -/
def register (dispatcher : Dispatcher) (kind : NodeKind) (registration : Registration) :
    Dispatcher :=
  ⟨enroll kind registration dispatcher.groups⟩

/-- Add the handlers of a rule, to report at a severity. -/
def add (dispatcher : Dispatcher) (rule : Rule) (severity : Severity) : Dispatcher :=
  rule.handlers.foldl
    (fun dispatcher entry ↦ dispatcher.register entry.1 ⟨rule.name, severity, entry.2⟩) dispatcher

/-- The group of a kind, if it has one. -/
def group? (dispatcher : Dispatcher) (kind : NodeKind) : Option (List Registration) :=
  (dispatcher.groups.find? (·.1 == kind)).map Prod.snd

/-- Whether there is a handler for nodes of a kind. -/
def handles (dispatcher : Dispatcher) (kind : NodeKind) : Bool :=
  (dispatcher.group? kind).isSome

/-- What the handlers for the kind of a node report at it. -/
def dispatch (dispatcher : Dispatcher) (site : Site) : List Diagnostic :=
  match dispatcher.group? site.node.kind with
  | some group => group.flatMap (·.reports site)
  | none => []

end Dispatcher

end QueryLint
