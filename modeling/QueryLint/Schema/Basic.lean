import QueryLint.Schema.TypeDef

/-!
# Schemas

A `Schema` holds the named types, the directives and the types at which operations start. A
`ResolvedType` is a type reference whose name has been looked up; its layers are those of the
reference.
-/

namespace QueryLint

open QueryLint.Language

/-- The types at which operations start, by kind of operation. -/
structure Roots where
  query : Option String
  mutation : Option String
  subscription : Option String
  deriving DecidableEq, Repr, Inhabited

namespace Roots

/-- No operation has a root type. -/
def none : Roots := ⟨.none, .none, .none⟩

/-- The root type of a kind of operation. -/
def get (roots : Roots) : OperationKind → Option String
  | .query => roots.query
  | .mutation => roots.mutation
  | .subscription => roots.subscription

/-- Set the root type of a kind of operation. -/
def set (roots : Roots) (kind : OperationKind) (name : Option String) : Roots :=
  match kind with
  | .query => { roots with query := name }
  | .mutation => { roots with mutation := name }
  | .subscription => { roots with subscription := name }

/-- Setting one root type leaves the others as they are. -/
theorem get_set (roots : Roots) (kind other : OperationKind) (name : Option String) :
    (roots.set kind name).get other = if other = kind then name else roots.get other := by
  cases kind <;> cases other <;> rfl

end Roots

/-- A type system. -/
structure Schema where
  types : Table TypeDef
  directives : Table DirectiveDef
  roots : Roots
  deriving DecidableEq, Inhabited

/-- A type reference whose innermost name has been looked up. -/
inductive ResolvedType where
  | named (type : TypeDef)
  | list (item : ResolvedType)
  | nonNull (inner : ResolvedType)
  deriving DecidableEq

namespace ResolvedType

/-- The type at the innermost layer. -/
def namedType : ResolvedType → TypeDef
  | named type => type
  | list inner | nonNull inner => inner.namedType

/-- The type below the outermost layer, if there is a layer. -/
def inner? : ResolvedType → Option ResolvedType
  | named _ => none
  | list inner | nonNull inner => some inner

/-- The reference that was looked up. -/
def toRef : ResolvedType → TypeRef
  | named type => .named type.name
  | list item => .list item.toRef
  | nonNull inner => .nonNull inner.toRef

/-- The type in the notation of type definitions. -/
def render (type : ResolvedType) : String := type.toRef.render

/-- The type without its outermost layer if that is non-null. -/
def nullable : ResolvedType → ResolvedType
  | nonNull inner => inner
  | type => type

/-- The layers from the outside in, each as the type that begins with it. -/
def layers : ResolvedType → List ResolvedType
  | named type => [named type]
  | list item => list item :: item.layers
  | nonNull inner => nonNull inner :: inner.layers

/-- The output fields of the outermost layer. List and non-null layers have none of their own. -/
def fieldMap : ResolvedType → Option (Table FieldDef)
  | named type => type.fieldMap
  | list _ | nonNull _ => none

end ResolvedType

namespace Schema

/-- The schema without types, directives or root types. -/
def empty : Schema := ⟨.empty, .empty, .none⟩

/-- The type of a name. -/
def type? (schema : Schema) (name : String) : Option TypeDef := schema.types.get? name

/-- The directive of a name. -/
def directive? (schema : Schema) (name : String) : Option DirectiveDef :=
  schema.directives.get? name

/-- The type at which operations of a kind start. -/
def root? (schema : Schema) (kind : OperationKind) : Option TypeDef :=
  (schema.roots.get kind).bind schema.type?

/-- Look up a type reference; `none` if its name is unknown. -/
def resolve? (schema : Schema) : TypeRef → Option ResolvedType
  | .named name => (schema.type? name).map .named
  | .list item => (schema.resolve? item).map .list
  | .nonNull inner => (schema.resolve? inner).map .nonNull

end Schema

end QueryLint
