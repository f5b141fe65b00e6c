import QueryLint.Lint.Rule

/-!
# Operations must have names

Reports every operation without a name, a selection set that stands alone included.
-/

namespace QueryLint.Rules

/-- The finding about an operation. -/
def unnamedOperation : Handler := fun site ↦
  match site.node with
  | .operation operation =>
    if operation.name.isNone then ["All operations must be named"] else []
  | _ => []

/-- Every operation has a name. -/
def operationNames : Rule where
  name := "operations_must_have_names"
  description := "Requires every operation to have a name"
  severity := .error
  handlers := [(.operation, unnamedOperation)]

end QueryLint.Rules
