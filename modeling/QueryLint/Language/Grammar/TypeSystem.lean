import QueryLint.Language.Grammar.Value

/-!
# Type system definitions and extensions

A definition and its extension share their parts. An extension must add something: where nothing
follows its name, the problem names what could have followed.
-/

namespace QueryLint.Language.Grammar

open Reading

/-! ## Members -/

/-- A description, if there is one. -/
def description : Reading (Option String) := do
  match ← current with
  | some token =>
    if token.kind = .string then
      advance
      return some token.word
    else return none
  | none => return none

/-- Whether a described member can begin here: at a name or a string. -/
def atMember? : Reading Bool := do
  return (← currentKind).any fun kind ↦ kind == .name || kind == .string

/-- The definition of an argument or of a field of an input object. -/
def inputValue : Reading InputValueDefinition := do
  let about ← description
  let ownName ← name
  unless ← accept .colon do fail .name
  let declared ← typeExpr
  let preset ← default
  let text ← preset.mapM fun given ↦ sourceText given.span
  let used ← directives true nestingLimit
  return ⟨about, ownName, declared, text, used⟩

/-- The argument definitions between parentheses, if there are any. -/
def argumentDefinitions : Reading (List InputValueDefinition) := do
  if ← accept .openParen then
    unless ← atMember? do fail .argumentDefinition
    let items ← many atMember? inputValue
    close .paren
    return items
  else return []

/-- The definition of a field. -/
def fieldDefinition : Reading FieldDefinition := do
  let about ← description
  let ownName ← name
  let parameters ← argumentDefinitions
  unless ← accept .colon do fail .fieldType
  let declared ← typeExpr
  let used ← directives true nestingLimit
  return ⟨about, ownName, parameters, declared, used⟩

/-- The definition of an enum value. -/
def enumValueDefinition : Reading EnumValueDefinition := do
  let about ← description
  if (← currentName).any (["true", "false", "null"].contains ·) then fail .reservedEnumValue
  let ownName ← nameOr .enumValue
  let used ← directives true nestingLimit
  return ⟨about, ownName, used⟩

/-- Members between braces; `problem` is reported where none begins. -/
def members {α : Type} (problem : GrammarProblem) (item : Reading α) : Reading (List α) := do
  if ← accept .openBrace then
    unless ← atMember? do fail problem
    let items ← many atMember? item
    close .brace
    return items
  else return []

/-- The interfaces that a type implements. -/
def interfaces : Reading (List Name) := do
  if ← atWord? "implements" then
    advance
    separated .amp (nameOr .interfaceName)
  else return []

/-! ## Types -/

/-- The kinds of type, by their keywords. -/
inductive TypeKeyword where
  | scalar
  | object
  | interface
  | union
  | enum
  | input
  deriving DecidableEq, Repr

/-- The kind of type that a keyword begins. -/
def TypeKeyword.ofWord? : String → Option TypeKeyword
  | "scalar" => some scalar
  | "type" => some object
  | "interface" => some interface
  | "union" => some union
  | "enum" => some enum
  | "input" => some input
  | _ => none

/-- What is reported where an extension adds nothing. -/
def TypeKeyword.extensionProblem : TypeKeyword → GrammarProblem
  | scalar => .scalarExtension
  | object => .objectExtension
  | interface => .interfaceExtension
  | union => .unionExtension
  | enum => .enumExtension
  | input => .inputExtension

/-- The interfaces that stand before the directives of an object or interface type. -/
def TypeKeyword.interfaces : TypeKeyword → Reading (List Name)
  | object | interface => Grammar.interfaces
  | _ => return []

/-- What follows the directives of a type. -/
def TypeKeyword.body (implemented : List Name) : TypeKeyword → Reading TypeBody
  | scalar => return .scalar
  | object => .object implemented <$> members .fieldDefinition fieldDefinition
  | interface => .interface implemented <$> members .fieldDefinition fieldDefinition
  | union => do
    if ← accept .equals then .union <$> separated .pipe (nameOr .unionMember)
    else return .union []
  | enum => .enum <$> members .enumValueDefinition enumValueDefinition
  | input => .input <$> members .inputValueDefinition inputValue

/-- Whether a type says nothing beyond its name. -/
def isBare (used : List Directive) : TypeBody → Bool
  | .scalar => used.isEmpty
  | .object interfaces fields | .interface interfaces fields =>
    used.isEmpty && interfaces.isEmpty && fields.isEmpty
  | .union members => used.isEmpty && members.isEmpty
  | .enum values => used.isEmpty && values.isEmpty
  | .input fields => used.isEmpty && fields.isEmpty

/-- The definition of a type; the cursor stands at its keyword. -/
def typeDefinition (keyword : TypeKeyword) (about : Option String) : Reading TypeDefinition := do
  advance
  let ownName ← nameOr (if keyword = .object then .typeName else .name)
  let implemented ← keyword.interfaces
  let used ← directives true nestingLimit
  let body ← keyword.body implemented
  return ⟨about, ownName, used, body⟩

/-- An extension of a type; the cursor stands at the word `extend`. -/
def typeExtension (keyword : TypeKeyword) : Reading TypeDefinition := do
  advance
  advance
  let ownName ← name
  let implemented ← keyword.interfaces
  let used ← directives true nestingLimit
  let body ← keyword.body implemented
  if isBare used body then fail keyword.extensionProblem
  return ⟨none, ownName, used, body⟩

/-! ## Schemas -/

/-- One entry of a schema definition. -/
def rootDefinition : Reading RootDefinition := do
  match (← currentName).bind OperationKind.ofKeyword? with
  | none => fail .rootOperationKind
  | some kind =>
    advance
    unless ← accept .colon do fail .rootOperationType
    let type ← if ← at? .name then some <$> name else pure none
    return ⟨kind, type⟩

/-- The entries between braces, if there are any; `mayBeEmpty` allows braces without entries. -/
def rootDefinitions (mayBeEmpty : Bool) : Reading (List RootDefinition) := do
  if ← accept .openBrace then
    unless mayBeEmpty || (← at? .name) do fail .rootOperation
    let items ← many (at? .name) rootDefinition
    close .brace
    return items
  else return []

/-- A schema definition; the cursor stands at its keyword. -/
def schemaDefinition : Reading SchemaDefinition := do
  advance
  let used ← directives true nestingLimit
  let roots ← rootDefinitions false
  return ⟨used, roots⟩

/-- An extension of the schema; the cursor stands at the word `extend`. -/
def schemaExtension : Reading SchemaDefinition := do
  advance
  advance
  let used ← directives true nestingLimit
  let roots ← rootDefinitions true
  if used.isEmpty && roots.isEmpty then fail .schemaExtension
  return ⟨used, roots⟩

/-! ## Directives -/

/-- The places at which a directive can be declared to stand. -/
def directiveLocations : List String :=
  ["QUERY", "MUTATION", "SUBSCRIPTION", "FIELD", "FRAGMENT_DEFINITION", "FRAGMENT_SPREAD",
    "INLINE_FRAGMENT", "VARIABLE_DEFINITION", "SCHEMA", "SCALAR", "OBJECT", "FIELD_DEFINITION",
    "ARGUMENT_DEFINITION", "INTERFACE", "UNION", "ENUM", "ENUM_VALUE", "INPUT_OBJECT",
    "INPUT_FIELD_DEFINITION"]

/-- The name of a place at which a directive can stand. -/
def directiveLocation : Reading Name := do
  if (← currentName).any (!directiveLocations.contains ·) then fail .knownDirectiveLocation
  nameOr .directiveLocation

/-- The definition of a directive; the cursor stands at its keyword. -/
def directiveDefinition (about : Option String) : Reading DirectiveDefinition := do
  advance
  unless ← accept .atSign do fail .directiveSign
  let ownName ← name
  let parameters ← argumentDefinitions
  let repeatable ← atWord? "repeatable"
  if repeatable then advance
  unless ← atWord? "on" do fail .directiveLocations
  advance
  unless (← currentKind).any fun kind ↦ kind == .name || kind == .pipe do
    fail .knownDirectiveLocation
  let places ← separated .pipe directiveLocation
  return ⟨about, ownName, parameters, repeatable, places⟩

end QueryLint.Language.Grammar
