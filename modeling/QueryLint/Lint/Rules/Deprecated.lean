import QueryLint.Lint.Rule

/-!
# No deprecated fields

Reports fields and enum values that the schema marks as deprecated, with the reason that it gives.
-/

namespace QueryLint.Rules

/-- A message with a reason after it, unless the reason is missing or empty. -/
def withReason (message : String) (reason : Option String) : String :=
  match reason with
  | some text => if text = "" then message else message ++ " " ++ text
  | none => message

/-- The finding about a field. -/
def deprecatedField : Handler := fun site ↦
  match site.context.field, site.context.parent with
  | some field, some parent =>
    match field.deprecation with
    | some deprecation =>
      [withReason ("The field " ++ parent.name ++ "." ++ field.name ++ " is deprecated.")
        deprecation.reason]
    | none => []
  | _, _ => []

/-- The finding about an enum value. -/
def deprecatedEnumValue : Handler := fun site ↦
  match site.context.enumValue, site.context.input with
  | some value, some type =>
    match value.deprecation with
    | some deprecation =>
      [withReason
        ("The enum value " ++ type.namedType.name ++ "." ++ value.name ++ " is deprecated.")
        deprecation.reason]
    | none => []
  | _, _ => []

/-- No deprecated field or enum value is used. -/
def noDeprecated : Rule where
  name := "no_deprecated_fields"
  description := "Warns when using deprecated fields or enum values"
  severity := .warning
  handlers := [(.field, deprecatedField), (.enumValue, deprecatedEnumValue)]

end QueryLint.Rules
