import QueryLint.Language.Grammar.Document
import QueryLint.Language.StringValue
import QueryLint.Text.Blank
import QueryLint.Schema.Basic

/-!
# Schemas from type system definitions

`Schema.ofDefinitions` builds a schema in three steps: all definitions in order, then all extensions
in order, then the built-in types and directives that are missing and the root types. An extension
sees only types that the text defines, adds members of its own kind whatever the kind of the type,
and, where it repeats a member, replaces it.
-/

namespace QueryLint

open QueryLint.Language

/-- The ways in which a text fails to be a schema. -/
inductive LoadError where
  | badSyntax (error : SyntaxError)
  | duplicateType (name : String)
  | duplicateDirective (name : String)
  | unknownExtendedType (name : String)
  | unknownRootType (name : String)
  deriving DecidableEq, Repr

/-- The wording of a load error. -/
def LoadError.message : LoadError → String
  | badSyntax error => error.message
  | duplicateType name => "type `" ++ name ++ "` is defined more than once"
  | duplicateDirective name => "directive `@" ++ name ++ "` is defined more than once"
  | unknownExtendedType name =>
      "cannot extend type `" ++ name ++ "` because it is not defined"
  | unknownRootType name => "root operation type `" ++ name ++ "` is not defined"

/-! ## Members -/

/-- The text of a description: the token without the quotes at its ends, then without the blanks at
its ends. -/
def descriptionText (token : String) : String :=
  String.ofList (Text.trimBoth Text.isBlank (Text.trimBoth (· == '"') token.toList))

/-- The reason of a deprecation that gives none. -/
def defaultDeprecationReason : String := "No longer supported"

/-- The deprecation that the first `deprecated` directive declares. Its reason is the first argument
of that name; a reason that is not a string is no reason. -/
def Deprecation.ofDirectives (directives : List Directive) : Option Deprecation :=
  (directives.find? (·.name.text == "deprecated")).map fun directive ↦
    match (directive.arguments.find? (·.name.text == "reason")).bind Argument.value with
    | none => ⟨some defaultDeprecationReason⟩
    | some (.string _ text) => ⟨some (StringValue.ofToken text)⟩
    | some _ => ⟨none⟩

/-- The argument or input field that a definition declares. -/
def InputValueDef.ofDefinition (definition : InputValueDefinition) : InputValueDef where
  name := definition.name.text
  description := definition.description.map descriptionText
  type := .ofExpr definition.type
  default := definition.default

/-- The table of the arguments or input fields that a list declares. -/
def InputValueDef.tableOf (definitions : List InputValueDefinition) : Table InputValueDef :=
  .ofList (definitions.map fun definition ↦ (definition.name.text, .ofDefinition definition))

/-- The field that a definition declares. -/
def FieldDef.ofDefinition (definition : FieldDefinition) : FieldDef where
  name := definition.name.text
  description := definition.description.map descriptionText
  type := .ofExpr definition.type
  arguments := InputValueDef.tableOf definition.arguments
  deprecation := Deprecation.ofDirectives definition.directives

/-- The table of the fields that a list declares. -/
def FieldDef.tableOf (definitions : List FieldDefinition) : Table FieldDef :=
  .ofList (definitions.map fun definition ↦ (definition.name.text, .ofDefinition definition))

/-- The enum value that a definition declares. -/
def EnumValueDef.ofDefinition (definition : EnumValueDefinition) : EnumValueDef where
  name := definition.name.text
  description := definition.description.map descriptionText
  deprecation := Deprecation.ofDirectives definition.directives

/-- The table of the enum values that a list declares. -/
def EnumValueDef.tableOf (definitions : List EnumValueDefinition) : Table EnumValueDef :=
  .ofList (definitions.map fun definition ↦ (definition.name.text, .ofDefinition definition))

/-- The directive that a definition declares. -/
def DirectiveDef.ofDefinition (definition : DirectiveDefinition) : DirectiveDef where
  name := definition.name.text
  arguments := InputValueDef.tableOf definition.arguments

/-- The kind of type that a body declares. -/
def TypeKind.ofBody : TypeBody → TypeKind
  | .scalar => scalar
  | .object _ _ => object
  | .interface _ _ => interface
  | .union _ => union
  | .enum _ => enum
  | .input _ => inputObject

/-- Add the members that a body declares, each kind of member to its own table. -/
def TypeDef.addMembers (type : TypeDef) : TypeBody → TypeDef
  | .object _ fields | .interface _ fields =>
    { type with fields := type.fields.insertAll (FieldDef.tableOf fields).entries }
  | .enum values =>
    { type with enumValues := type.enumValues.insertAll (EnumValueDef.tableOf values).entries }
  | .input fields =>
    { type with inputFields := type.inputFields.insertAll (InputValueDef.tableOf fields).entries }
  | .scalar | .union _ => type

/-- The type that a definition declares. -/
def TypeDef.ofDefinition (definition : TypeDefinition) : TypeDef :=
  (bare definition.name.text (.ofBody definition.body)
    (definition.description.map descriptionText)).addMembers definition.body

/-! ## Built-in definitions -/

/-- The scalars that every schema has. -/
def builtinScalars : List String := ["String", "Int", "Float", "Boolean", "ID"]

/-- A directive with at most one argument, as the built-in ones are. -/
def DirectiveDef.withArgument (name argument : String) (type : TypeRef)
    (default : Option String) : DirectiveDef :=
  ⟨name, .ofList [(argument, ⟨argument, none, type, default⟩)]⟩

/-- The directives that every schema has. -/
def builtinDirectives : List DirectiveDef :=
  [.withArgument "skip" "if" (.nonNull (.named "Boolean")) none,
    .withArgument "include" "if" (.nonNull (.named "Boolean")) none,
    .withArgument "deprecated" "reason" (.named "String") (some "\"No longer supported\""),
    .withArgument "specifiedBy" "url" (.nonNull (.named "String")) none]

/-! ## Building a schema -/

namespace Schema

/-- A schema in the making. -/
structure Draft where
  types : Table TypeDef
  directives : Table DirectiveDef
  /-- The entries of all schema definitions; `none` if there is no schema definition. -/
  roots : Option (List (OperationKind × String))
  deriving DecidableEq

namespace Draft

/-- Nothing is defined yet. -/
def empty : Draft := ⟨.empty, .empty, none⟩

/-- The kinds and names of the complete entries of a schema definition. -/
def rootEntries (definition : SchemaDefinition) : List (OperationKind × String) :=
  definition.roots.filterMap fun root ↦ root.type.map fun name ↦ (root.kind, name.text)

/-- Add what a definition defines. -/
def define (draft : Draft) : Definition → Except LoadError Draft
  | .type definition =>
    let name := definition.name.text
    if draft.types.contains name then .error (.duplicateType name)
    else .ok { draft with types := draft.types.insert name (.ofDefinition definition) }
  | .directive definition =>
    let name := definition.name.text
    if draft.directives.contains name then .error (.duplicateDirective name)
    else .ok { draft with directives := draft.directives.insert name (.ofDefinition definition) }
  | .schema definition =>
    .ok { draft with roots := some (draft.roots.getD [] ++ rootEntries definition) }
  | _ => .ok draft

/-- Whether extensions with this body change their type. Those of unions and scalars do not. -/
def extendsMembers : TypeBody → Bool
  | .object _ _ | .interface _ _ | .enum _ | .input _ => true
  | .scalar | .union _ => false

/-- Add what an extension adds. -/
def extend (draft : Draft) : Definition → Except LoadError Draft
  | .extendType extension =>
    if extendsMembers extension.body then
      let name := extension.name.text
      match draft.types.get? name with
      | none => .error (.unknownExtendedType name)
      | some type =>
        .ok { draft with types := draft.types.insert name (type.addMembers extension.body) }
    else .ok draft
  | _ => .ok draft

/-- The types with the missing built-in scalars at the end. -/
def completeTypes (draft : Draft) : Table TypeDef :=
  builtinScalars.foldl (fun types name ↦ types.insertNew name (.bare name .scalar none)) draft.types

/-- The directives with the missing built-in ones at the end. -/
def completeDirectives (draft : Draft) : Table DirectiveDef :=
  builtinDirectives.foldl (fun table directive ↦ table.insertNew directive.name directive)
    draft.directives

/-- The root types that the entries of schema definitions name; the last entry of a kind counts. -/
def declaredRoots (types : Table TypeDef) (roots : Roots) :
    List (OperationKind × String) → Except LoadError Roots
  | [] => .ok roots
  | (kind, name) :: rest =>
    if types.contains name then declaredRoots types (roots.set kind (some name)) rest
    else .error (.unknownRootType name)

/-- The root types of a text without schema definition: the types with the customary names. -/
def customaryRoots (types : Table TypeDef) : Roots :=
  let existing (name : String) := if types.contains name then some name else none
  ⟨existing "Query", existing "Mutation", existing "Subscription"⟩

/-- Complete a draft. -/
def finish (draft : Draft) : Except LoadError Schema := do
  let types := draft.completeTypes
  let roots ←
    match draft.roots with
    | some entries => declaredRoots types .none entries
    | none => pure (customaryRoots types)
  return ⟨types, draft.completeDirectives, roots⟩

end Draft

/-- The schema that a list of definitions defines. -/
def ofDefinitions (definitions : List Definition) : Except LoadError Schema := do
  let defined ← definitions.foldlM Draft.define .empty
  let extended ← definitions.foldlM Draft.extend defined
  extended.finish

/-- The schema that a text defines. -/
def load (text : String) : Except LoadError Schema :=
  match Document.read text with
  | .error error => .error (.badSyntax error)
  | .ok document => ofDefinitions document.definitions

end Schema

end QueryLint
