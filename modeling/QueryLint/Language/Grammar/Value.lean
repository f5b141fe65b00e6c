import QueryLint.Language.Reading

/-!
# Values, types, arguments and directives

Nesting is bounded: every reader of something that nests takes the number of levels that may still
open, and that number is what its recursion goes down on. A list type, an item of a list and the
value of an object field are one level each.
-/

namespace QueryLint.Language.Grammar

open Reading

/-- The number of levels that a text may nest. -/
def nestingLimit : Nat := 500

/-! ## Types -/

/-- A type whose item type, if it is a list, is read by `item`. -/
def typeExprWith (item : Reading TypeExpr) (problem : GrammarProblem) : Reading TypeExpr := do
  match ← currentKind with
  | some .openBracket =>
    advance
    let inner ← item
    close .bracket
    return .list inner (← accept .bang)
  | some .name =>
    let inner ← name
    return .named inner (← accept .bang)
  | _ => fail problem

/-- The type inside the brackets of a list type, with `levels` levels left. -/
def itemType : Nat → Reading TypeExpr
  | 0 => fail .nestingLimit
  | levels + 1 => typeExprWith (itemType levels) .itemType

/-- A type as written. -/
def typeExpr : Reading TypeExpr :=
  typeExprWith (itemType nestingLimit) .typeExpr

/-! ## Values -/

/-- The value that a name stands for: a boolean, null or an enum value. -/
def wordValue (word : Name) : Value :=
  match word.text with
  | "true" => .boolean word.span true
  | "false" => .boolean word.span false
  | "null" => .null word.span
  | _ => .enum word

/-- A literal that is one token. -/
def literal (make : Span → String → Value) : Reading Value := do
  let start ← offset
  let text ← current
  advance
  return make (← spanFrom start) ((text.map Token.word).getD "")

/-- A field of an object value; its value is read by `nested`. -/
def objectField (nested : Reading Value) : Reading ObjectField := do
  let start ← offset
  let field ← name
  let value ← if ← accept .colon then some <$> nested else pure none
  return ⟨← spanFrom start, field, value⟩

/-- A value whose parts are read by `nested`. A list that the end of the text cuts short ends there;
what surrounds it then misses its own closing mark. -/
def valueWith (constant : Bool) (nested : Reading Value) : Reading Value := do
  let start ← offset
  match ← currentKind with
  | some .dollar =>
    if constant then fail .variableInConstant
    else
      advance
      let variableName ← name
      return .var (← spanFrom start) variableName
  | some .int => literal .int
  | some .float => literal .float
  | some .string => literal .string
  | some .name => return wordValue (← name)
  | some .openBracket =>
    advance
    let items ← many (return (← current).any fun token ↦ token.kind != .closeBracket) nested
    let _ ← accept .closeBracket
    return .list (← spanFrom start) items
  | some .openBrace =>
    advance
    let fields ← many (at? .name) (objectField nested)
    close .brace
    return .object (← spanFrom start) fields
  | _ => fail .value

/-- A value inside another, with `levels` levels left. -/
def nestedValue (constant : Bool) : Nat → Reading Value
  | 0 => fail .nestingLimit
  | levels + 1 => valueWith constant (nestedValue constant levels)

/-- A value. In a constant one, variables are refused. -/
def value (constant : Bool) (levels : Nat) : Reading Value :=
  valueWith constant (nestedValue constant levels)

/-- The default after an equals sign, if there is one. -/
def default : Reading (Option Value) := do
  if ← accept .equals then some <$> value true nestingLimit else return none

/-! ## Arguments and directives -/

/-- An argument. Its value may be missing. -/
def argument (constant : Bool) (levels : Nat) : Reading Argument := do
  let start ← offset
  let argumentName ← name
  let given ← if ← accept .colon then some <$> value constant levels else pure none
  return ⟨← spanFrom start, argumentName, given⟩

/-- The arguments between parentheses, if there are any. -/
def arguments (constant : Bool) (levels : Nat) : Reading (List Argument) := do
  if ← accept .openParen then
    unless ← at? .name do fail .argument
    let items ← many (at? .name) (argument constant levels)
    close .paren
    return items
  else return []

/-- A directive in use. -/
def directive (constant : Bool) (levels : Nat) : Reading Directive := do
  let start ← offset
  advance
  let directiveName ← name
  let given ← arguments constant levels
  return ⟨← spanFrom start, directiveName, given⟩

/-- The directives at this place, if there are any. -/
def directives (constant : Bool) (levels : Nat) : Reading (List Directive) :=
  many (at? .atSign) (directive constant levels)

end QueryLint.Language.Grammar
