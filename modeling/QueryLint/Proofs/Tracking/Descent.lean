import QueryLint.Tracking.Site

/-!
# Contexts handed down

The descent of a part of a document lists its sites without a tracker. A node gets its context from
the node around it and hands one down to its parts; nothing comes back up and nothing is undone. The
look-ups are spelled out from the tables of the schema, so that what a tracker shows can be compared
with them. `Document.descent` is the descent of a whole document.
-/

namespace QueryLint

open QueryLint.Language

/-- What a place takes that is declared with this type: a scalar, an enum or an input object. -/
def Schema.takes (schema : Schema) (type : TypeRef) : Option ResolvedType :=
  match schema.resolve? type with
  | some found =>
      if found.namedType.kind ∈ [TypeKind.scalar, .enum, .inputObject] then some found else none
  | none => none

/-- What a field yields that is declared with this type: anything but an input object. -/
def Schema.yields (schema : Schema) (type : TypeRef) : Option ResolvedType :=
  match schema.resolve? type with
  | some found => if found.namedType.kind = .inputObject then none else some found
  | none => none

/-- The item of a list below at most one non-null layer; any other type loses that layer only. -/
def ResolvedType.item : ResolvedType → ResolvedType
  | .list item | .nonNull (.list item) => item
  | .nonNull inner => inner
  | .named type => .named type

/-! ## What a node adds to the context around it -/

namespace Context

/-- Outside all definitions nothing is in force. -/
def outside : Context := ⟨none, none, none, none, none⟩

variable (schema : Schema) (here : Context)

/-- An operation starts at the root type of its kind, if that is an object. -/
def inOperation (kind : OperationKind) : Context :=
  { here with
    type :=
      match schema.root? kind with
      | some type => if type.kind = .object then some (.named type) else none
      | none => none }

/-- A type condition brings in the type it names, unless that is an input object. -/
def underCondition (name : String) : Context :=
  { here with type := schema.yields (.named name) }

/-- An inline fragment without a condition stays at the innermost type. -/
def inInline (condition : Option Name) : Context :=
  match condition with
  | some name => here.underCondition schema name.text
  | none => { here with type := here.type.map fun type ↦ .named type.namedType }

/-- A selection set selects on the innermost type, if that is composite. -/
def inSelections : Context :=
  { here with
    parent := (here.type.map ResolvedType.namedType).filter fun type ↦
      type.kind ∈ [TypeKind.object, .interface, .union] }

/-- A field is looked up on the type it is selected on. -/
def inField (name : String) : Context :=
  let definition := here.parent.bind (·.selectable? name)
  { here with field := definition, type := definition.bind (schema.yields ·.type) }

/-- The default of a variable is given for the declared type. -/
def inVariable (type : TypeExpr) : Context :=
  { here with input := schema.takes (.ofExpr type) }

/-- An argument is given for the type it has among the arguments on offer. -/
def inArgument (offered : Option (Table InputValueDef)) (name : String) : Context :=
  { here with input := (offered.bind (·.get? name)).bind (schema.takes ·.type) }

/-- The items of a list are given for the item type of what the list is given for. -/
def inList : Context :=
  { here with input := here.input.map ResolvedType.item }

/-- A field of an object is given for the type it has in the input object. -/
def inObjectField (name : String) : Context :=
  { here with
    input := (here.input.bind (·.namedType.inputField? name)).bind (schema.takes ·.type) }

/-- An enum value is looked up in the enum it is given for. -/
def atEnumValue (name : String) : Context :=
  { here with enumValue := here.input.bind (·.namedType.enumValue? name) }

/-- The arguments on offer in a directive: its own if the schema has it, else those of the field. -/
def offeredBy (directive : String) : Option (Table InputValueDef) :=
  match schema.directive? directive with
  | some definition => some definition.arguments
  | none => here.field.map (·.arguments)

end Context

end QueryLint

namespace QueryLint.Language

/-! ## Values and directives -/

mutual
/-- The sites of a value. -/
def Value.descent (schema : Schema) (here : Context) : Value → List Site
  | .enum name => [⟨.enumValue name, here.atEnumValue name.text⟩]
  | .list span items => ⟨.list span items, here.inList⟩ :: descentOfItems schema here.inList items
  | .object _ fields => descentOfFields schema here fields
  | .var _ _ | .int _ _ | .float _ _ | .string _ _ | .boolean _ _ | .null _ => []

/-- The sites of the items of a list. -/
def descentOfItems (schema : Schema) (here : Context) : List Value → List Site
  | [] => []
  | item :: rest => item.descent schema here ++ descentOfItems schema here rest

/-- The sites of a field of an object. -/
def ObjectField.descent (schema : Schema) (here : Context) : ObjectField → List Site
  | ⟨span, name, none⟩ =>
      [⟨.objectField ⟨span, name, none⟩, here.inObjectField schema name.text⟩]
  | ⟨span, name, some value⟩ =>
      ⟨.objectField ⟨span, name, some value⟩, here.inObjectField schema name.text⟩ ::
        value.descent schema (here.inObjectField schema name.text)

/-- The sites of the fields of an object. -/
def descentOfFields (schema : Schema) (here : Context) : List ObjectField → List Site
  | [] => []
  | field :: rest => field.descent schema here ++ descentOfFields schema here rest
end

/-- The sites of a value that may be missing. -/
def descentOfOptional (schema : Schema) (here : Context) (value : Option Value) : List Site :=
  value.elim [] (Value.descent schema here)

/-- The sites of an argument, one of those on offer. -/
def Argument.descent (schema : Schema) (here : Context) (offered : Option (Table InputValueDef))
    (argument : Argument) : List Site :=
  let inside := here.inArgument schema offered argument.name.text
  ⟨.argument argument, inside⟩ :: descentOfOptional schema inside argument.value

/-- The sites of a directive in use. -/
def Directive.descent (schema : Schema) (here : Context) (directive : Directive) : List Site :=
  ⟨.directive directive, here⟩ ::
    directive.arguments.flatMap
      (Argument.descent schema here (here.offeredBy schema directive.name.text))

/-- The site of a type condition, if there is one. -/
def descentOfCondition (here : Context) (condition : Option Name) : List Site :=
  condition.elim [] fun name ↦ [⟨.namedType name, here⟩]

/-! ## Selections -/

mutual
/-- The sites of a field. -/
def Field.descent (schema : Schema) (here : Context) : Field → List Site
  | ⟨span, aliasName, name, arguments, directives, none⟩ =>
      let inside := here.inField schema name.text
      ⟨.field ⟨span, aliasName, name, arguments, directives, none⟩, inside⟩ ::
        (arguments.flatMap (Argument.descent schema inside (inside.field.map (·.arguments))) ++
          directives.flatMap (Directive.descent schema inside))
  | ⟨span, aliasName, name, arguments, directives, some selections⟩ =>
      let inside := here.inField schema name.text
      ⟨.field ⟨span, aliasName, name, arguments, directives, some selections⟩, inside⟩ ::
        (arguments.flatMap (Argument.descent schema inside (inside.field.map (·.arguments))) ++
          directives.flatMap (Directive.descent schema inside) ++
          selections.descent schema inside)

/-- The sites of an inline fragment. -/
def InlineFragment.descent (schema : Schema) (here : Context) : InlineFragment → List Site
  | ⟨span, condition, directives, selections⟩ =>
      let inside := here.inInline schema condition
      ⟨.inlineFragment ⟨span, condition, directives, selections⟩, inside⟩ ::
        (descentOfCondition inside condition ++
          directives.flatMap (Directive.descent schema inside) ++
          selections.descent schema inside)

/-- The sites of a selection set. -/
def SelectionSet.descent (schema : Schema) (here : Context) : SelectionSet → List Site
  | ⟨span, items⟩ =>
      ⟨.selectionSet ⟨span, items⟩, here.inSelections⟩ ::
        descentOfSelections schema here.inSelections items

/-- The sites of one selection. -/
def Selection.descent (schema : Schema) (here : Context) : Selection → List Site
  | .field it => it.descent schema here
  | .inline it => it.descent schema here
  | .spread span name directives =>
      ⟨.spread span name, here⟩ :: directives.flatMap (Directive.descent schema here)

/-- The sites of the selections of a set. -/
def descentOfSelections (schema : Schema) (here : Context) : List Selection → List Site
  | [] => []
  | selection :: rest => selection.descent schema here ++ descentOfSelections schema here rest
end

/-! ## Definitions -/

/-- The sites of the declaration of a variable. -/
def VariableDefinition.descent (schema : Schema) (here : Context)
    (definition : VariableDefinition) : List Site :=
  let inside := here.inVariable schema definition.type
  ⟨.variableDefinition definition, inside⟩ :: ⟨.namedType definition.type.name, inside⟩ ::
    (descentOfOptional schema inside definition.default ++
      definition.directives.flatMap (Directive.descent schema inside))

/-- The sites of an operation. -/
def Operation.descent (schema : Schema) (here : Context) (operation : Operation) : List Site :=
  let inside := here.inOperation schema operation.kind
  ⟨.operation operation, inside⟩ ::
    (operation.variableDefinitions.flatMap (VariableDefinition.descent schema inside) ++
      operation.directives.flatMap (Directive.descent schema inside) ++
      operation.selections.descent schema inside)

/-- The sites of a fragment. -/
def Fragment.descent (schema : Schema) (here : Context) (fragment : Fragment) : List Site :=
  let inside := here.underCondition schema fragment.condition.text
  ⟨.fragment fragment, inside⟩ :: ⟨.namedType fragment.condition, inside⟩ ::
    (fragment.directives.flatMap (Directive.descent schema inside) ++
      fragment.selections.descent schema inside)

/-- The sites of a definition. -/
def Definition.descent (schema : Schema) (here : Context) : Definition → List Site
  | .operation it => it.descent schema here
  | .fragment it => it.descent schema here
  | .schema _ | .directive _ | .type _ | .extendSchema _ | .extendType _ => []

/-- The sites of a document, each with the context handed down to it. -/
def Document.descent (schema : Schema) (document : Document) : List Site :=
  ⟨.document document, .outside⟩ ::
    document.definitions.flatMap (Definition.descent schema .outside)

end QueryLint.Language
