import QueryLint.Lint.Rule

/-!
# Type names should be capitalized

Reports a named type whose name does not begin with a capital letter. Names are ASCII, so the
capital letters are `A` to `Z`; an underscore is not one.
-/

namespace QueryLint.Rules

/-- Whether a name begins with a character that has no lower-case form of its own. -/
def startsUncapitalized (name : String) : Bool :=
  name.toList.head?.any fun c ↦ c.toLower == c

/-- The finding about a named type. -/
def uncapitalizedType : Handler := fun site ↦
  match site.node with
  | .namedType name =>
    if startsUncapitalized name.text then ["All type names should start with a capital letter"]
    else []
  | _ => []

/-- Every type name begins with a capital letter. -/
def typeNames : Rule where
  name := "type_names_should_be_capitalized"
  description := "Requires referenced type names to start with a capital letter"
  severity := .warning
  handlers := [(.namedType, uncapitalizedType)]

end QueryLint.Rules
