import QueryLint.Schema.Basic

/-!
# Types in force

The types that a schema gives to the places of a document: where an operation or a fragment starts,
what a field yields, and what an argument, a variable or a list item takes.
-/

namespace QueryLint

open QueryLint.Language

namespace Schema

/-- The type at which an operation starts, if it is an object. -/
def operationType? (schema : Schema) (kind : OperationKind) : Option ResolvedType :=
  ((schema.root? kind).filter (·.kind == .object)).map .named

/-- The type that a type condition names, unless it is an input object. -/
def conditionType? (schema : Schema) (name : String) : Option ResolvedType :=
  ((schema.type? name).filter (·.kind.isOutput)).map .named

/-- What a field with this type yields; nothing if that is an input object. -/
def outputType? (schema : Schema) (type : TypeRef) : Option ResolvedType :=
  (schema.resolve? type).filter (·.namedType.kind.isOutput)

/-- What an argument or a variable with this type takes, if that is an input type. -/
def inputType? (schema : Schema) (type : TypeRef) : Option ResolvedType :=
  (schema.resolve? type).filter (·.namedType.kind.isInput)

end Schema

/-- What an item of a list value takes where the list is given for this type. A single value can
stand for a list of one, so a type that is no list is taken as it is. -/
def ResolvedType.itemType (type : ResolvedType) : ResolvedType :=
  match type.nullable with
  | .list item => item
  | other => other

/-- The type whose fields are selected where this type is in force, if it can carry a selection. -/
def ResolvedType.parentType? (type : ResolvedType) : Option TypeDef :=
  if type.namedType.kind.isComposite then some type.namedType else none

/-- Whether the field of this name can be selected on a type, below its list and non-null layers.
The field of every composite type does not count. -/
def ResolvedType.offers (type : ResolvedType) (name : String) : Bool :=
  type.layers.any fun layer ↦ layer.fieldMap.any (·.contains name)

end QueryLint
