import QueryLint.Json.Writer
import QueryLint.Text.Quoted

/-!
# Why a JSON value does not fit

A `DecodeError` tells what was found in a JSON value and what would have fitted there.
-/

namespace QueryLint

/-- What is expected at a place of a JSON value. -/
inductive Expected where
  | string
  | sequence
  /-- Null, as the content of a severity that is written as an object. -/
  | unit
  | stringOrMap
  | singleKey
  | ruleEntry
  | requiredFields
  | requiredFieldsElements
  deriving DecidableEq, Repr

/-- The wording of what is expected. -/
def Expected.phrase : Expected → String
  | string => "a string"
  | sequence => "a sequence"
  | unit => "unit"
  | stringOrMap => "string or map"
  | singleKey => "map with a single key"
  | ruleEntry =>
      "\"off\", \"warn\", \"error\", [severity, options] or \x7b severity, options \x7d"
  | requiredFields => "struct RequiredFieldsOptions"
  | requiredFieldsElements => "struct RequiredFieldsOptions with 1 element"

/-- Why a JSON value does not fit. -/
inductive DecodeError where
  | wrongType (found : Json) (expected : Expected)
  /-- An object that does not have exactly one member. -/
  | notSingleKey
  /-- An array without elements where at least one is needed. -/
  | noElements (expected : Expected)
  /-- An array with more elements than are looked at. -/
  | tooManyElements (count : Nat)
  | missingField (name : String)
  | duplicateField (name : String)
  /-- A member of another name than those that are known. -/
  | unknownField (name : String) (known : List String)
  | unknownSeverity (word : String)
  /-- No form of a configuration fits. -/
  | noConfig
  deriving Repr

namespace DecodeError

/-- A number as a message shows it. -/
def describeNumber (value : JsonNumber) : String :=
  let kind :=
    match value with
    | .integer _ => "integer"
    | .double _ _ => "floating point"
  kind ++ " `" ++ Json.renderNumber value ++ "`"

/-- A value as a message shows it. -/
def describe : Json → String
  | .null => "null"
  | .bool value => "boolean `" ++ toString value ++ "`"
  | .number value => describeNumber value
  | .string value => "string " ++ Text.Quoted.encode value
  | .array _ => "sequence"
  | .object _ => "map"

/-- The names of the members that are known. -/
def quoteAll (names : List String) : List String :=
  names.map fun name ↦ "`" ++ name ++ "`"

/-- The wording of a decode error. -/
def message : DecodeError → String
  | wrongType found expected =>
      "invalid type: " ++ describe found ++ ", expected " ++ expected.phrase
  | notSingleKey => "invalid value: map, expected " ++ Expected.singleKey.phrase
  | noElements expected => "invalid length 0, expected " ++ expected.phrase
  | tooManyElements count =>
      "invalid length " ++ toString count ++ ", expected fewer elements in array"
  | missingField name => "missing field `" ++ name ++ "`"
  | duplicateField name => "duplicate field `" ++ name ++ "`"
  | unknownField name known =>
      "unknown field `" ++ name ++ "`, expected " ++ String.intercalate " or " (quoteAll known)
  | unknownSeverity word =>
      "unknown variant `" ++ word ++ "`, expected one of `off`, `warn`, `error`"
  | noConfig => "data did not match any variant of untagged enum LintConfig"

end DecodeError

end QueryLint
