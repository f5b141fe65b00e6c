import QueryLint.Text.Span

/-!
# Documents

The tree that a text is read into. Executable definitions (operations and fragments) keep the byte
range of every node that a rule can look at; type system definitions keep what a schema is built
from. A type as written (`TypeExpr`) has at most one `!` after each of its layers.
-/

namespace QueryLint.Language

/-- A name and where it stands. -/
structure Name where
  text : String
  span : Span
  deriving DecidableEq, Repr, Inhabited

/-! ## Values and types -/

mutual
/-- A value as written. -/
inductive Value where
  /-- A variable; the range includes its `$`. -/
  | var (span : Span) (name : Name)
  | int (span : Span) (text : String)
  | float (span : Span) (text : String)
  /-- A string; `text` is the token with its quotes. -/
  | string (span : Span) (text : String)
  | boolean (span : Span) (value : Bool)
  | null (span : Span)
  | enum (name : Name)
  | list (span : Span) (items : List Value)
  | object (span : Span) (fields : List ObjectField)

/-- A field of an object value. The value may be missing. -/
structure ObjectField where
  span : Span
  name : Name
  value : Option Value
end

/-- The range of a value. -/
def Value.span : Value → Span
  | .var span _ | .int span _ | .float span _ | .string span _ | .boolean span _ | .null span
  | .list span _ | .object span _ => span
  | .enum name => name.span

/-- A type as written: a name or a list, each with an optional `!`. -/
inductive TypeExpr where
  | named (name : Name) (required : Bool)
  | list (item : TypeExpr) (required : Bool)
  deriving DecidableEq, Repr

/-- The name at the innermost layer. -/
def TypeExpr.name : TypeExpr → Name
  | named name _ => name
  | list item _ => item.name

/-- An argument of a field or a directive. The value may be missing. -/
structure Argument where
  span : Span
  name : Name
  value : Option Value

/-- A directive in use; the range includes its `@`. -/
structure Directive where
  span : Span
  name : Name
  arguments : List Argument

/-! ## Executable definitions -/

mutual
/-- A field of a selection set. -/
structure Field where
  span : Span
  aliasName : Option Name
  name : Name
  arguments : List Argument
  directives : List Directive
  selections : Option SelectionSet

/-- A selection set inside another, under the type condition if there is one. -/
structure InlineFragment where
  span : Span
  condition : Option Name
  directives : List Directive
  selections : SelectionSet

/-- Selections between braces. -/
structure SelectionSet where
  span : Span
  items : List Selection

/-- One entry of a selection set. -/
inductive Selection where
  | field (field : Field)
  | inline (fragment : InlineFragment)
  | spread (span : Span) (name : Name) (directives : List Directive)
end

/-- The declaration of a variable. -/
structure VariableDefinition where
  span : Span
  name : Name
  type : TypeExpr
  default : Option Value
  directives : List Directive

/-- The three kinds of operation. -/
inductive OperationKind where
  | query
  | mutation
  | subscription
  deriving DecidableEq, Repr

/-- The keyword of an operation kind. -/
def OperationKind.keyword : OperationKind → String
  | query => "query"
  | mutation => "mutation"
  | subscription => "subscription"

/-- The operation kind with this keyword. -/
def OperationKind.ofKeyword? : String → Option OperationKind
  | "query" => some query
  | "mutation" => some mutation
  | "subscription" => some subscription
  | _ => none

/-- An operation of a document. -/
structure Operation where
  span : Span
  kind : OperationKind
  name : Option Name
  variableDefinitions : List VariableDefinition
  directives : List Directive
  selections : SelectionSet

/-- A fragment with a name of its own. -/
structure Fragment where
  span : Span
  name : Name
  condition : Name
  directives : List Directive
  selections : SelectionSet

/-! ## Type system definitions -/

/-- The definition of an argument or of a field of an input object. The description and the default
are kept as they are written. -/
structure InputValueDefinition where
  description : Option String
  name : Name
  type : TypeExpr
  default : Option String
  directives : List Directive

/-- The definition of a field of an object or interface type. -/
structure FieldDefinition where
  description : Option String
  name : Name
  arguments : List InputValueDefinition
  type : TypeExpr
  directives : List Directive

/-- The definition of a value of an enum type. -/
structure EnumValueDefinition where
  description : Option String
  name : Name
  directives : List Directive

/-- What follows the name and the directives of a type, by the kind of the type. -/
inductive TypeBody where
  | scalar
  | object (interfaces : List Name) (fields : List FieldDefinition)
  | interface (interfaces : List Name) (fields : List FieldDefinition)
  | union (members : List Name)
  | enum (values : List EnumValueDefinition)
  | input (fields : List InputValueDefinition)

/-- The definition of a type, or an extension of one. -/
structure TypeDefinition where
  description : Option String
  name : Name
  directives : List Directive
  body : TypeBody

/-- The definition of a directive. -/
structure DirectiveDefinition where
  description : Option String
  name : Name
  arguments : List InputValueDefinition
  repeatable : Bool
  locations : List Name

/-- One entry of a schema definition. The type may be missing. -/
structure RootDefinition where
  kind : OperationKind
  type : Option Name

/-- A schema definition, or an extension of one. -/
structure SchemaDefinition where
  directives : List Directive
  roots : List RootDefinition

/-- A definition of a document. -/
inductive Definition where
  | operation (operation : Operation)
  | fragment (fragment : Fragment)
  | schema (definition : SchemaDefinition)
  | directive (definition : DirectiveDefinition)
  | type (definition : TypeDefinition)
  | extendSchema (extension : SchemaDefinition)
  | extendType (extension : TypeDefinition)

/-- A whole text: its definitions in order and its range. -/
structure Document where
  span : Span
  definitions : List Definition

end QueryLint.Language
