/-!
# What can be wrong with a text

`LexicalProblem` lists the ways in which characters fail to form a token, `GrammarProblem` the ways
in which tokens fail to form a document. A `SyntaxError` places one of them at a byte offset. The
wording of every problem is in its `message`.
-/

namespace QueryLint.Language

/-- The ways in which the characters at some place fail to form a token. -/
inductive LexicalProblem where
  /-- No token starts with this character. -/
  | unexpected (c : Char)
  /-- A point that is not part of three points in a row. -/
  | unterminatedSpread
  /-- The text ends after a minus sign. -/
  | minusAtEnd
  /-- A minus sign before something other than a digit. -/
  | afterMinus (c : Char)
  /-- A zero before another digit. -/
  | leadingZero
  /-- The text ends after a point, an exponent mark or the sign of an exponent. -/
  | floatAtEnd
  | fractionalDigit (found : Char)
  | exponentDigitOrSign (found : Char)
  | exponentDigit (found : Char)
  | integerSuffix (c : Char)
  | floatSuffix (c : Char)
  /-- The text ends just after the quote that opens a string. -/
  | loneQuote
  | unterminatedString
  | lineTerminator
  | escapedCharacter
  | unicodeEscape
  | incompleteUnicodeEscape
  | unpairedSurrogate
  | notScalarValue
  deriving DecidableEq, Repr

/-- The wording of a lexical problem. -/
def LexicalProblem.message : LexicalProblem → String
  | unexpected c => "Unexpected character \"" ++ String.singleton c ++ "\""
  | unterminatedSpread => "Unterminated spread operator"
  | minusAtEnd => "Unexpected character \"-\""
  | afterMinus c => "Unexpected character `" ++ String.singleton c ++ "`"
  | leadingZero => "Numbers must not have non-significant leading zeroes"
  | floatAtEnd => "Unexpected EOF in float value"
  | fractionalDigit c =>
    "Unexpected character `" ++ String.singleton c ++ "`, expected fractional digit"
  | exponentDigitOrSign c =>
    "Unexpected character `" ++ String.singleton c ++ "`, expected exponent digit or sign"
  | exponentDigit c =>
    "Unexpected character `" ++ String.singleton c ++ "`, expected exponent digit"
  | integerSuffix c => "Unexpected character `" ++ String.singleton c ++ "` as integer suffix"
  | floatSuffix c => "Unexpected character `" ++ String.singleton c ++ "` as float suffix"
  | loneQuote => "unexpected end of data while lexing string value"
  | unterminatedString => "unterminated string value"
  | lineTerminator => "unexpected line terminator"
  | escapedCharacter => "unexpected escaped character"
  | unicodeEscape => "invalid unicode escape sequence"
  | incompleteUnicodeEscape => "incomplete unicode escape sequence"
  | unpairedSurrogate => "unpaired surrogate in unicode escape sequence"
  | notScalarValue => "unicode escape sequence must specify a Unicode scalar value"

/-- The closing marks that the grammar asks for by name. -/
inductive ClosingMark where
  | brace
  | paren
  | bracket
  deriving DecidableEq, Repr

/-- The name by which a missing closing mark is reported. -/
def ClosingMark.label : ClosingMark → String
  | brace => "R_CURLY"
  | paren => "R_PAREN"
  | bracket => "R_BRACK"

/-- The ways in which the tokens of a text fail to form a document. Most are named for what the
grammar expected at that place. -/
inductive GrammarProblem where
  /-- The text holds no token at all. -/
  | emptyText
  | definitionStart
  /-- The keyword at this place starts no definition. -/
  | definition
  /-- A description stands before an operation. -/
  | describedOperation
  /-- The extended thing cannot be extended, or the extension has a description. -/
  | extensionTarget
  | name
  | typeName
  | selectionSet
  | inlineSelectionSet
  | selection
  /-- The three points start neither an inline fragment nor a spread. -/
  | fragmentOrSpread
  | argument
  | variableDefinition
  /-- The type of a variable or of a member. -/
  | typeExpr
  /-- The colon before the type of a field definition. -/
  | fieldType
  | itemType
  | value
  | variableInConstant
  | fragmentName
  /-- A fragment is named with the keyword of its own type condition. -/
  | fragmentNamedOn
  | typeConditionKeyword
  | typeCondition
  | rootOperation
  | rootOperationKind
  | rootOperationType
  | interfaceName
  | fieldDefinition
  | argumentDefinition
  | inputValueDefinition
  | enumValueDefinition
  | enumValue
  /-- `true`, `false` and `null` cannot name an enum value. -/
  | reservedEnumValue
  | unionMember
  | directiveSign
  | directiveLocations
  | directiveLocation
  /-- The word at this place is not one of the locations that a directive can have. -/
  | knownDirectiveLocation
  | objectExtension
  | interfaceExtension
  | unionExtension
  | enumExtension
  | inputExtension
  | scalarExtension
  | schemaExtension
  /-- The text nests deeper than the reader follows. -/
  | nestingLimit
  /-- A closing mark is missing; `found` is the token in its place. -/
  | closing (mark : ClosingMark) (found : String)
  deriving DecidableEq, Repr

/-- The wording of a problem with the grammar. -/
def GrammarProblem.message : GrammarProblem → String
  | emptyText => "Unexpected <EOF>."
  | definitionStart => "expected a StringValue, Name or OperationDefinition"
  | definition => "expected definition"
  | describedOperation => "expected an Operation Type or a Selection Set"
  | extensionTarget => "Invalid Type System Extension. This extension cannot be applied."
  | name => "expected a Name"
  | typeName => "expected a name"
  | selectionSet => "expected a Selection Set"
  | inlineSelectionSet => "expected Selection Set"
  | selection => "expected at least one Selection in Selection Set"
  | fragmentOrSpread => "expected an Inline Fragment or a Fragment Spread"
  | argument => "expected an Argument"
  | variableDefinition => "expected a Variable Definition"
  | typeExpr => "expected a Type"
  | fieldType => "expected a type"
  | itemType => "expected item type"
  | value => "expected a valid Value"
  | variableInConstant => "unexpected variable value in a Const context"
  | fragmentName => "expected Fragment Name"
  | fragmentNamedOn => "Fragment Name cannot be 'on'"
  | typeConditionKeyword => "expected 'on'"
  | typeCondition => "expected a Name in Type Condition"
  | rootOperation => "expected Root Operation Type Definition"
  | rootOperationKind => "expected either a 'mutation', a 'query', or a 'subscription'"
  | rootOperationType => "expected a Name Type"
  | interfaceName => "expected an Interface name"
  | fieldDefinition => "expected Field Definition"
  | argumentDefinition => "expected an Argument Definition"
  | inputValueDefinition => "expected an Input Value Definition"
  | enumValueDefinition => "expected Enum Value Definition"
  | enumValue => "expected Enum Value"
  | reservedEnumValue => "invalid Enum Value"
  | unionMember => "expected Union Member Type"
  | directiveSign => "expected @ symbol"
  | directiveLocations => "expected Directive Locations"
  | directiveLocation => "expected Directive Location"
  | knownDirectiveLocation => "expected valid Directive Location"
  | objectExtension => "expected an Implements Interface, Directives or a Fields Definition"
  | interfaceExtension => "exptected an Implements Interfaces, Directives, or a Fields Definition"
  | unionExtension => "expected Directives or Union Member Types"
  | enumExtension => "expected Directive or Enum Values Definition"
  | inputExtension => "expected Directives or an Input Fields Definition"
  | scalarExtension => "expected Directives"
  | schemaExtension => "expected directives or Root Operation Type Definition"
  | nestingLimit => "parser recursion limit reached"
  | closing mark found => "expected " ++ mark.label ++ ", got " ++ found

/-- What is wrong at one place of a text. -/
inductive Problem where
  | lexical (problem : LexicalProblem)
  | grammar (problem : GrammarProblem)
  deriving DecidableEq, Repr

/-- The wording of a problem. -/
def Problem.message : Problem → String
  | lexical problem => problem.message
  | grammar problem => problem.message

/-- The first problem of a text and the byte at which it shows. -/
structure SyntaxError where
  /-- The byte offset of the token that the problem is about. -/
  offset : Nat
  /-- What is wrong there. -/
  problem : Problem
  deriving DecidableEq, Repr

/-- The wording of a syntax error, its place included. -/
def SyntaxError.message (error : SyntaxError) : String :=
  "syntax error at offset " ++ toString error.offset ++ ": " ++ error.problem.message

end QueryLint.Language
