import QueryLint.Schema.InForce
import QueryLint.Walk.Node

/-!
# Tracking types during a walk

A `Context` is what a rule can ask about the place of a node. A `Tracker` keeps it up to date: a
node is entered before its parts and left after them, and what it brings into force is pushed and
popped. Leaving is harmless where nothing was entered.
-/

namespace QueryLint

open QueryLint.Language

/-- What is in force at a place of a document. A part is `none` where the schema does not tell it.
-/
structure Context where
  /-- What the place yields: the root type in an operation, the type of a field. -/
  type : Option ResolvedType
  /-- The type whose fields are being selected. -/
  parent : Option TypeDef
  /-- The field being selected. -/
  field : Option FieldDef
  /-- What the value at the place is given for. -/
  input : Option ResolvedType
  /-- The enum value at the place. -/
  enumValue : Option EnumValueDef
  deriving DecidableEq

/-- The stacks of what the open nodes brought into force, the innermost first. -/
structure Tracker where
  types : List (Option ResolvedType)
  parents : List (Option TypeDef)
  fields : List (Option FieldDef)
  inputs : List (Option ResolvedType)
  /-- The definition of the directive that was entered last and not left, if it has one. -/
  directive : Option DirectiveDef
  /-- The definition of the enum value that was entered last and not left, if it has one. -/
  enumValue : Option EnumValueDef
  deriving DecidableEq

namespace Tracker

/-- Nothing is open. -/
def start : Tracker := ⟨[], [], [], [], none, none⟩

/-- What is in force. -/
def context (tracker : Tracker) : Context where
  type := tracker.types.head?.join
  parent := tracker.parents.head?.join
  field := tracker.fields.head?.join
  input := tracker.inputs.head?.join
  enumValue := tracker.enumValue

/-- The arguments that can be given here: those of the directive in force, else those of the field.
-/
def arguments? (tracker : Tracker) : Option (Table InputValueDef) :=
  match tracker.directive with
  | some directive => some directive.arguments
  | none => tracker.context.field.map (·.arguments)

/-- Bring a type into force. -/
def pushType (type : Option ResolvedType) (tracker : Tracker) : Tracker :=
  { tracker with types := type :: tracker.types }

/-- Bring an input type into force. -/
def pushInput (type : Option ResolvedType) (tracker : Tracker) : Tracker :=
  { tracker with inputs := type :: tracker.inputs }

/-- Enter a node. -/
def enter (schema : Schema) (node : Node) (tracker : Tracker) : Tracker :=
  let here := tracker.context
  match node with
  | .operation operation => tracker.pushType (schema.operationType? operation.kind)
  | .fragment fragment => tracker.pushType (schema.conditionType? fragment.condition.text)
  | .inlineFragment fragment =>
    tracker.pushType <|
      match fragment.condition with
      | some condition => schema.conditionType? condition.text
      | none => here.type.map fun type ↦ .named type.namedType
  | .selectionSet _ =>
    { tracker with parents := here.type.bind ResolvedType.parentType? :: tracker.parents }
  | .field field =>
    let definition := here.parent.bind (·.selectable? field.name.text)
    { tracker with
      fields := definition :: tracker.fields
      types := definition.bind (schema.outputType? ·.type) :: tracker.types }
  | .directive directive => { tracker with directive := schema.directive? directive.name.text }
  | .variableDefinition definition =>
    tracker.pushInput (schema.inputType? (.ofExpr definition.type))
  | .argument argument =>
    tracker.pushInput <|
      (tracker.arguments?.bind (·.get? argument.name.text)).bind (schema.inputType? ·.type)
  | .list _ _ => tracker.pushInput (here.input.map ResolvedType.itemType)
  | .objectField field =>
    tracker.pushInput <|
      (here.input.bind (·.namedType.inputField? field.name.text)).bind (schema.inputType? ·.type)
  | .enumValue name =>
    { tracker with enumValue := here.input.bind (·.namedType.enumValue? name.text) }
  | .document _ | .spread _ _ | .namedType _ => tracker

/-- Leave a node of a kind. -/
def leave (kind : NodeKind) (tracker : Tracker) : Tracker :=
  match kind with
  | .operation | .fragment | .inlineFragment => { tracker with types := tracker.types.tail }
  | .selectionSet => { tracker with parents := tracker.parents.tail }
  | .field => { tracker with fields := tracker.fields.tail, types := tracker.types.tail }
  | .directive => { tracker with directive := none }
  | .variableDefinition | .argument | .list | .objectField =>
    { tracker with inputs := tracker.inputs.tail }
  | .enumValue => { tracker with enumValue := none }
  | .document | .spread | .namedType => tracker

end Tracker

end QueryLint
