import QueryLint.Language.Grammar.Executable
import QueryLint.Language.Grammar.TypeSystem

/-!
# Whole documents

`Document.read` reads a text to its end or to its first problem. Which definition comes next is told
by its keyword: the current token, or the token after a description.
-/

namespace QueryLint.Language

open Grammar Reading

namespace Grammar

/-- A definition of a type, a directive or the schema, after its description. -/
def typeSystemDefinition (keyword : String) (about : Option String) : Reading Definition :=
  match keyword with
  | "schema" => .schema <$> schemaDefinition
  | "directive" => .directive <$> directiveDefinition about
  | _ =>
    match TypeKeyword.ofWord? keyword with
    | some kind => .type <$> typeDefinition kind about
    | none => fail .definition

/-- An extension; the cursor stands at the word `extend`. -/
def extensionDefinition : Reading Definition := do
  match ← secondWord with
  | some "schema" => .extendSchema <$> schemaExtension
  | some keyword =>
    match TypeKeyword.ofWord? keyword with
    | some kind => .extendType <$> typeExtension kind
    | none => fail .extensionTarget
  | none => fail .extensionTarget

/-- The keywords that begin a type system definition. -/
def typeSystemKeywords : List String :=
  ["directive", "enum", "input", "interface", "type", "scalar", "schema", "union"]

/-- A definition that begins with a string. -/
def describedDefinition : Reading Definition := do
  match ← secondWord with
  | none => fail .definition
  | some "\x7b" => fail .describedOperation
  | some "extend" => fail .extensionTarget
  | some "fragment" => .fragment <$> fragmentDefinition
  | some keyword =>
    if (OperationKind.ofKeyword? keyword).isSome then fail .describedOperation
    else if typeSystemKeywords.contains keyword then
      typeSystemDefinition keyword (← description)
    else fail .definition

/-- A definition that begins with its keyword. -/
def keywordDefinition (keyword : String) : Reading Definition :=
  match keyword, OperationKind.ofKeyword? keyword with
  | _, some kind => .operation <$> operation kind
  | "extend", none => extensionDefinition
  | "fragment", none => .fragment <$> fragmentDefinition
  | _, none => typeSystemDefinition keyword none

/-- A definition. -/
def definition : Reading Definition := do
  match ← current with
  | none => fail .definitionStart
  | some token =>
    match token.kind with
    | .string => describedDefinition
    | .name => keywordDefinition token.word
    | .openBrace => .operation <$> shorthandQuery
    | _ => fail .definitionStart

/-- The definitions up to the end of the text. -/
def definitions : Reading (List Definition) := do
  if (← current).isNone then fail .emptyText
  many (return (← current).isSome) definition

end Grammar

/-- Read a text as a document, or report its first problem. -/
def Document.read (text : String) : Except SyntaxError Document := do
  let source := text.toList
  let cursor ← Cursor.ofText source
  let (definitions, _) ← Grammar.definitions.run cursor
  return ⟨⟨0, Text.byteLength source⟩, definitions⟩

/-- Read the type at the front of a text, or report the first problem. -/
def TypeExpr.read (text : String) : Except SyntaxError TypeExpr := do
  let cursor ← Cursor.ofText text.toList
  let (type, _) ← Grammar.typeExpr.run cursor
  return type

end QueryLint.Language
