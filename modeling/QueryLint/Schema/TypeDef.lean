import QueryLint.Table
import QueryLint.Schema.TypeRef

/-!
# Named types and their members

A `TypeDef` has three tables of members, whatever its kind. The kind decides which of them a look-up
sees: output fields on objects and interfaces, input fields on input objects, values on enums.
-/

namespace QueryLint

/-- That a member is deprecated, and why. -/
structure Deprecation where
  reason : Option String
  deriving DecidableEq, Repr

/-- An argument, or a field of an input object. The default is kept as written. -/
structure InputValueDef where
  name : String
  description : Option String
  type : TypeRef
  default : Option String
  deriving DecidableEq, Repr

/-- A field that can be selected. -/
structure FieldDef where
  name : String
  description : Option String
  type : TypeRef
  arguments : Table InputValueDef
  deprecation : Option Deprecation
  deriving DecidableEq

/-- A value of an enum. -/
structure EnumValueDef where
  name : String
  description : Option String
  deprecation : Option Deprecation
  deriving DecidableEq, Repr

/-- A directive and its arguments. -/
structure DirectiveDef where
  name : String
  arguments : Table InputValueDef
  deriving DecidableEq

/-- The kinds of named type. -/
inductive TypeKind where
  | object
  | interface
  | union
  | enum
  | scalar
  | inputObject
  deriving DecidableEq, Repr

/-- Objects, interfaces and unions can carry a selection set. -/
def TypeKind.isComposite : TypeKind → Bool
  | object | interface | union => true
  | enum | scalar | inputObject => false

/-- Scalars, enums and input objects can be given as input. -/
def TypeKind.isInput : TypeKind → Bool
  | enum | scalar | inputObject => true
  | object | interface | union => false

/-- All but input objects can be the type of a field. -/
def TypeKind.isOutput : TypeKind → Bool
  | inputObject => false
  | _ => true

/-- Objects and interfaces have output fields. -/
def TypeKind.hasFields : TypeKind → Bool
  | object | interface => true
  | _ => false

/-- A named type. -/
structure TypeDef where
  name : String
  kind : TypeKind
  description : Option String
  fields : Table FieldDef
  inputFields : Table InputValueDef
  enumValues : Table EnumValueDef
  deriving DecidableEq

namespace TypeDef

/-- A type of a kind without members. -/
def bare (name : String) (kind : TypeKind) (description : Option String) : TypeDef :=
  ⟨name, kind, description, .empty, .empty, .empty⟩

/-- The output fields, which only objects and interfaces have. -/
def fieldMap (type : TypeDef) : Option (Table FieldDef) :=
  if type.kind.hasFields then some type.fields else none

/-- The output field of a name. -/
def field? (type : TypeDef) (name : String) : Option FieldDef :=
  type.fieldMap.bind (·.get? name)

/-- The input field of a name, which only input objects have. -/
def inputField? (type : TypeDef) (name : String) : Option InputValueDef :=
  if type.kind = .inputObject then type.inputFields.get? name else none

/-- The enum value of a name, which only enums have. -/
def enumValue? (type : TypeDef) (name : String) : Option EnumValueDef :=
  if type.kind = .enum then type.enumValues.get? name else none

/-- The name of the field that every composite type has. -/
def typenameField : String := "__typename"

/-- The field that every composite type has: the name of the object's type. -/
def typenameDef : FieldDef :=
  ⟨typenameField, none, .nonNull (.named "String"), .empty, none⟩

/-- The field that a selection on a type means, the field of every composite type included. -/
def selectable? (type : TypeDef) (name : String) : Option FieldDef :=
  if name = typenameField ∧ type.kind.isComposite then some typenameDef else type.field? name

end TypeDef

end QueryLint
