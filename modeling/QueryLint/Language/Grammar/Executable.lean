import QueryLint.Language.Grammar.Value

/-!
# Selection sets, operations and fragments

A selection set is one level of nesting; the values in it count their levels from there.
-/

namespace QueryLint.Language.Grammar

open Reading

/-! ## Selections -/

/-- The name of a fragment, which cannot be `on`. -/
def fragmentName : Reading Name := do
  if ← atWord? "on" then fail .fragmentNamedOn
  nameOr .fragmentName

/-- A type condition: the word `on` and a name. -/
def typeCondition : Reading Name := do
  unless ← atWord? "on" do fail .typeConditionKeyword
  advance
  nameOr .typeCondition

/-- A field whose selection set is read by `nested`. -/
def field (nested : Reading SelectionSet) (levels : Nat) : Reading Field := do
  let start ← offset
  let aliasName ←
    if (← secondKind) == some .colon then
      let before ← name
      advance
      pure (some before)
    else pure none
  let fieldName ← name
  let given ← arguments false levels
  let used ← directives false levels
  let selections ← if ← at? .openBrace then some <$> nested else pure none
  return ⟨← spanFrom start, aliasName, fieldName, given, used, selections⟩

/-- A fragment spread; the cursor stands at its three points. -/
def fragmentSpread (levels : Nat) : Reading Selection := do
  let start ← offset
  advance
  let spreadName ← fragmentName
  let used ← directives false levels
  return .spread (← spanFrom start) spreadName used

/-- An inline fragment; the cursor stands at its three points. -/
def inlineFragment (nested : Reading SelectionSet) (levels : Nat) : Reading InlineFragment := do
  let start ← offset
  advance
  let condition ← if ← at? .name then some <$> typeCondition else pure none
  let used ← directives false levels
  unless ← at? .openBrace do fail .inlineSelectionSet
  let selections ← nested
  return ⟨← spanFrom start, condition, used, selections⟩

/-- A selection: a field, or what the token after three points tells. -/
def selection (nested : Reading SelectionSet) (levels : Nat) : Reading Selection := do
  if ← at? .spread then
    match ← secondKind with
    | some .name =>
      if (← secondWord) == some "on" then .inline <$> inlineFragment nested levels
      else fragmentSpread levels
    | some .atSign | some .openBrace => .inline <$> inlineFragment nested levels
    | _ => fail .fragmentOrSpread
  else .field <$> field nested levels

/-- A selection set with `levels` levels left; the cursor stands at its opening brace. -/
def selectionSet (levels : Nat) : Reading SelectionSet := do
  let start ← offset
  advance
  match levels with
  | 0 => fail .nestingLimit
  | levels + 1 =>
    let begins := return (← currentKind).any fun kind ↦ kind == .spread || kind == .name
    unless ← begins do fail .selection
    let items ← many begins (selection (selectionSet levels) levels)
    close .brace
    return ⟨← spanFrom start, items⟩

/-- The selection set of a definition. -/
def topSelectionSet : Reading SelectionSet := do
  unless ← at? .openBrace do fail .selectionSet
  selectionSet nestingLimit

/-! ## Operations -/

/-- The declaration of a variable; the cursor stands at its `$`. -/
def variableDefinition : Reading VariableDefinition := do
  let start ← offset
  advance
  let variableName ← name
  unless ← accept .colon do fail .name
  let declared ← typeExpr
  let preset ← default
  let used ← directives true nestingLimit
  return ⟨← spanFrom start, variableName, declared, preset, used⟩

/-- The variables between parentheses, if there are any. -/
def variableDefinitions : Reading (List VariableDefinition) := do
  if ← accept .openParen then
    unless ← at? .dollar do fail .variableDefinition
    let items ← many (at? .dollar) variableDefinition
    close .paren
    return items
  else return []

/-- A selection set alone is a query without a name. -/
def shorthandQuery : Reading Operation := do
  let start ← offset
  let selections ← topSelectionSet
  return ⟨← spanFrom start, .query, none, [], [], selections⟩

/-- An operation of a kind; the cursor stands at its keyword. -/
def operation (kind : OperationKind) : Reading Operation := do
  let start ← offset
  advance
  let operationName ← if ← at? .name then some <$> name else pure none
  let declared ← variableDefinitions
  let used ← directives false nestingLimit
  let selections ← topSelectionSet
  return ⟨← spanFrom start, kind, operationName, declared, used, selections⟩

/-- A fragment definition. One token stands before its name: the keyword, or a description, after
which the keyword itself is the name. -/
def fragmentDefinition : Reading Fragment := do
  let start ← offset
  advance
  let ownName ← fragmentName
  let condition ← typeCondition
  let used ← directives false nestingLimit
  let selections ← topSelectionSet
  return ⟨← spanFrom start, ownName, condition, used, selections⟩

end QueryLint.Language.Grammar
