import QueryLint.Lint.Rule
import QueryLint.Walk.Requested

/-!
# Required fields

Reports a fragment or a field whose type offers one of some fields while its selection set does not
request it. The fields are reported in the order in which they are required.
-/

namespace QueryLint.Rules

open QueryLint.Language

/-- The required fields that a type offers and a selection set does not request. -/
def missingFields (required : List String) (type : Option ResolvedType)
    (selections : Option SelectionSet) : List String :=
  required.filter fun name ↦ type.any (·.offers name) && !isRequested selections name

/-- The findings about a fragment. -/
def missingInFragment (required : List String) : Handler := fun site ↦
  match site.node with
  | .fragment fragment =>
    (missingFields required site.context.type (some fragment.selections)).map fun name ↦
      "'" ++ name ++ "' field required on 'fragment " ++ fragment.name.text ++ " on " ++
        fragment.condition.text ++ "'"
  | _ => []

/-- The findings about a field. A field that the schema does not know has none. -/
def missingInField (required : List String) : Handler := fun site ↦
  match site.node with
  | .field field =>
    if site.context.field.isNone then []
    else
      (missingFields required site.context.type field.selections).map fun name ↦
        "'" ++ name ++ "' field required on '" ++ field.name.text ++ "'"
  | _ => []

/-- Wherever a type offers one of these fields, it is requested. -/
def requiredFields (required : List String) : Rule where
  name := "required_fields"
  description := "Requires configured fields to be selected wherever the type has them"
  severity := .error
  handlers := [(.fragment, missingInFragment required), (.field, missingInField required)]

end QueryLint.Rules
