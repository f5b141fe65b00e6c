import QueryLint.Walk.Node

/-!
# Walking a document

A walk meets the nodes of the operations and fragments of a document in the order of the text, each
before its parts. `Document.events` lists what happens on the way: nodes with parts are entered and
left, nodes without are visited. Type system definitions are passed over.
-/

namespace QueryLint

open QueryLint.Language

/-- What happens at one step of a walk. -/
inductive Event where
  /-- A node begins; its parts follow. -/
  | enter (node : Node)
  /-- The parts of a node are done. -/
  | leave (node : Node)
  /-- A node without parts of its own is met. -/
  | visit (node : Node)
  /-- A variable is met, in its declaration or as a value. -/
  | mention (name : Name)

namespace Event

/-- The events of a node whose parts have the given events. -/
def around (node : Node) (parts : List Event) : List Event :=
  enter node :: (parts ++ [leave node])

/-- The node that begins or is visited at an event. -/
def begins? : Event → Option Node
  | enter node | visit node => some node
  | leave _ | mention _ => none

end Event

end QueryLint

namespace QueryLint.Language

/-! ## Values, directives and types -/

mutual
/-- The events of a value. -/
def Value.events : Value → List Event
  | .var _ name => [.mention name]
  | .enum name => [.visit (.enumValue name)]
  | .list span items => Event.around (.list span items) (eventsOfItems items)
  | .object _ fields => eventsOfFields fields
  | .int _ _ | .float _ _ | .string _ _ | .boolean _ _ | .null _ => []

/-- The events of the items of a list. -/
def eventsOfItems : List Value → List Event
  | [] => []
  | item :: rest => item.events ++ eventsOfItems rest

/-- The events of a field of an object. -/
def ObjectField.events : ObjectField → List Event
  | ⟨span, name, none⟩ => Event.around (.objectField ⟨span, name, none⟩) []
  | ⟨span, name, some value⟩ => Event.around (.objectField ⟨span, name, some value⟩) value.events

/-- The events of the fields of an object. -/
def eventsOfFields : List ObjectField → List Event
  | [] => []
  | field :: rest => field.events ++ eventsOfFields rest
end

/-- The events of a value that may be missing. -/
def eventsOfOptional (value : Option Value) : List Event :=
  (value.map Value.events).getD []

/-- The events of an argument. -/
def Argument.events (argument : Argument) : List Event :=
  Event.around (.argument argument) (eventsOfOptional argument.value)

/-- The events of a directive in use. -/
def Directive.events (directive : Directive) : List Event :=
  Event.around (.directive directive) (directive.arguments.flatMap Argument.events)

/-- The events of a written type. A list has none of its own, with a `!` or without: the walk goes
on to the type of the items. -/
def TypeExpr.events : TypeExpr → List Event
  | .named name _ => [.visit (.namedType name)]
  | .list item _ => item.events

/-- In a written type a walk meets one named type, that of the innermost name. -/
theorem TypeExpr.events_eq (type : TypeExpr) : type.events = [.visit (.namedType type.name)] := by
  induction type with
  | named name required => rfl
  | list item required ih => exact ih

/-- The event of a type condition, if there is one. -/
def eventsOfCondition (condition : Option Name) : List Event :=
  (condition.map fun name ↦ [Event.visit (.namedType name)]).getD []

/-! ## Selections -/

mutual
/-- The events of a field. -/
def Field.events : Field → List Event
  | ⟨span, aliasName, name, arguments, directives, none⟩ =>
    Event.around (.field ⟨span, aliasName, name, arguments, directives, none⟩)
      (arguments.flatMap Argument.events ++ directives.flatMap Directive.events)
  | ⟨span, aliasName, name, arguments, directives, some selections⟩ =>
    Event.around (.field ⟨span, aliasName, name, arguments, directives, some selections⟩)
      (arguments.flatMap Argument.events ++ directives.flatMap Directive.events ++
        selections.events)

/-- The events of an inline fragment. -/
def InlineFragment.events : InlineFragment → List Event
  | ⟨span, condition, directives, selections⟩ =>
    Event.around (.inlineFragment ⟨span, condition, directives, selections⟩)
      (eventsOfCondition condition ++ directives.flatMap Directive.events ++ selections.events)

/-- The events of a selection set. -/
def SelectionSet.events : SelectionSet → List Event
  | ⟨span, items⟩ => Event.around (.selectionSet ⟨span, items⟩) (eventsOfSelections items)

/-- The events of one selection. -/
def Selection.events : Selection → List Event
  | .field it => it.events
  | .inline it => it.events
  | .spread span name directives =>
    Event.visit (.spread span name) :: directives.flatMap Directive.events

/-- The events of the selections of a set. -/
def eventsOfSelections : List Selection → List Event
  | [] => []
  | selection :: rest => selection.events ++ eventsOfSelections rest
end

/-! ## Definitions -/

/-- The events of the declaration of a variable. -/
def VariableDefinition.events (definition : VariableDefinition) : List Event :=
  Event.around (.variableDefinition definition)
    (.mention definition.name :: (definition.type.events ++
      (eventsOfOptional definition.default ++ definition.directives.flatMap Directive.events)))

/-- The events of an operation. -/
def Operation.events (operation : Operation) : List Event :=
  Event.around (.operation operation)
    (operation.variableDefinitions.flatMap VariableDefinition.events ++
      operation.directives.flatMap Directive.events ++ operation.selections.events)

/-- The events of a fragment. -/
def Fragment.events (fragment : Fragment) : List Event :=
  Event.around (.fragment fragment)
    (.visit (.namedType fragment.condition) ::
      (fragment.directives.flatMap Directive.events ++ fragment.selections.events))

/-- The events of a definition. -/
def Definition.events : Definition → List Event
  | .operation it => it.events
  | .fragment it => it.events
  | .schema _ | .directive _ | .type _ | .extendSchema _ | .extendType _ => []

/-- The events of a document. -/
def Document.events (document : Document) : List Event :=
  Event.around (.document document) (document.definitions.flatMap Definition.events)

/-- The names of the variables of a document, in the order of the walk. -/
def Document.variableNames (document : Document) : List String :=
  document.events.filterMap fun
    | .mention name => some name.text
    | _ => none

end QueryLint.Language
