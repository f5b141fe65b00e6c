import QueryLint.Config.Decode
import QueryLint.Lint.Rules.OperationNames
import QueryLint.Lint.Rules.RequiredFields
import QueryLint.Lint.Rules.TypeNames
import QueryLint.Lint.Rules.Deprecated

/-!
# The catalogue of rules

`Catalogue.rules` lists the rules there are, in the order in which a configuration enables them.
Only the rule about required fields takes options, and it needs them.
-/

namespace QueryLint

/-- The ways in which a configuration fails to give a linter. -/
inductive ConfigError where
  | unknownPreset (name : String)
  | unknownRules (invalid : List String) (valid : List String)
  | missingOptions (rule : String)
  | invalidOptions (rule : String) (cause : DecodeError)

/-- The wording of a configuration error. -/
def ConfigError.message : ConfigError → String
  | unknownPreset name =>
      "invalid preset name: '" ++ name ++ "' (valid presets: recommended)"
  | unknownRules invalid valid =>
      "invalid lint rule name(s): " ++ String.intercalate ", " invalid ++
        "; valid rule names are: " ++ String.intercalate ", " valid
  | missingOptions rule => "rule '" ++ rule ++ "' requires options"
  | invalidOptions rule cause => "invalid options for rule '" ++ rule ++ "': " ++ cause.message

namespace Catalogue

/-- The rules there are. -/
def rules : List Rule :=
  [Rules.operationNames, Rules.requiredFields [], Rules.typeNames, Rules.noDeprecated]

/-- The names of the rules, sorted. -/
def names : List String :=
  (rules.map (·.name)).mergeSort

/-- The rule of a name, without options. -/
def find? (name : String) : Option Rule :=
  rules.find? (·.name == name)

/-- The rule about required fields with options from a configuration. -/
def requiredFieldsWith (options : Option Json) : Except ConfigError Rule :=
  let name := (Rules.requiredFields []).name
  match options with
  | none => .error (.missingOptions name)
  | some value =>
    match decodeRequiredFields value with
    | .ok required => .ok (Rules.requiredFields required)
    | .error cause => .error (.invalidOptions name cause)

/-- A rule of the catalogue with options from a configuration. -/
def configure (rule : Rule) (options : Option Json) : Except ConfigError Rule :=
  if rule.name = (Rules.requiredFields []).name then requiredFieldsWith options else .ok rule

end Catalogue

end QueryLint
