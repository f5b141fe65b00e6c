import QueryLint.Language.Document

/-!
# The nodes of a document

A `Node` is a part of a document that a rule can look at: one of fourteen kinds, with its range.
-/

namespace QueryLint

open QueryLint.Language

/-- The kinds of node. -/
inductive NodeKind where
  | document
  | operation
  | fragment
  | variableDefinition
  | selectionSet
  | field
  | spread
  | inlineFragment
  | argument
  | directive
  | namedType
  | list
  | objectField
  | enumValue
  deriving DecidableEq, Repr

/-- All kinds of node. -/
def NodeKind.all : List NodeKind :=
  [document, operation, fragment, variableDefinition, selectionSet, field, spread, inlineFragment,
    argument, directive, namedType, list, objectField, enumValue]

/-- The name by which diagnostics give a kind of node. -/
def NodeKind.label : NodeKind → String
  | document => "Document"
  | operation => "OperationDefinition"
  | fragment => "FragmentDefinition"
  | variableDefinition => "VariableDefinition"
  | selectionSet => "SelectionSet"
  | field => "Field"
  | spread => "FragmentSpread"
  | inlineFragment => "InlineFragment"
  | argument => "Argument"
  | directive => "Directive"
  | namedType => "NamedType"
  | list => "ListValue"
  | objectField => "ObjectField"
  | enumValue => "EnumValue"

/-- The kind of node with this name. -/
def NodeKind.ofLabel? (label : String) : Option NodeKind :=
  all.find? (·.label == label)

/-- A part of a document that a rule can look at. -/
inductive Node where
  | document (document : Document)
  | operation (operation : Operation)
  | fragment (fragment : Fragment)
  | variableDefinition (definition : VariableDefinition)
  | selectionSet (set : SelectionSet)
  | field (field : Field)
  | spread (span : Span) (name : Name)
  | inlineFragment (fragment : InlineFragment)
  | argument (argument : Argument)
  | directive (directive : Directive)
  | namedType (name : Name)
  | list (span : Span) (items : List Value)
  | objectField (field : ObjectField)
  | enumValue (name : Name)

/-- The kind of a node. -/
def Node.kind : Node → NodeKind
  | document _ => .document
  | operation _ => .operation
  | fragment _ => .fragment
  | variableDefinition _ => .variableDefinition
  | selectionSet _ => .selectionSet
  | field _ => .field
  | spread _ _ => .spread
  | inlineFragment _ => .inlineFragment
  | argument _ => .argument
  | directive _ => .directive
  | namedType _ => .namedType
  | list _ _ => .list
  | objectField _ => .objectField
  | enumValue _ => .enumValue

/-- The range of a node. -/
def Node.span : Node → Span
  | document it => it.span
  | operation it => it.span
  | fragment it => it.span
  | variableDefinition it => it.span
  | selectionSet it => it.span
  | field it => it.span
  | spread span _ => span
  | inlineFragment it => it.span
  | argument it => it.span
  | directive it => it.span
  | namedType name => name.span
  | list span _ => span
  | objectField it => it.span
  | enumValue name => name.span

/-- What a diagnostic keeps of a node. -/
structure NodeRef where
  kind : NodeKind
  span : Span
  deriving DecidableEq, Repr

/-- The reference to a node. -/
def Node.toRef (node : Node) : NodeRef := ⟨node.kind, node.span⟩

end QueryLint
