import QueryLint.Walk.Event

/-!
# Requested fields

A selection set requests a field if it selects it directly or in an inline fragment of its own.
Fragment spreads, and inline fragments inside inline fragments, do not count; an alias does not
change what is requested.
-/

namespace QueryLint.Language

/-- Whether a selection is the field of this name. -/
def Selection.selects (name : String) : Selection → Bool
  | .field it => it.name.text == name
  | .inline _ | .spread _ _ _ => false

/-- Whether a selection requests the field of this name. -/
def Selection.requests (name : String) : Selection → Bool
  | .field it => it.name.text == name
  | .inline it => it.selections.items.any (selects name)
  | .spread _ _ _ => false

/-- Whether a selection set requests the field of this name. -/
def SelectionSet.requests (set : SelectionSet) (name : String) : Bool :=
  set.items.any (Selection.requests name)

/-- Whether the field of this name is requested, where there may be no selection set. -/
def isRequested (set : Option SelectionSet) (name : String) : Bool :=
  set.any (·.requests name)

/-- The places of a document where fields can be requested, in the order of the walk: every
selection set, and `none` for every field without one. -/
def Document.requestSites (document : Document) : List (Option SelectionSet) :=
  document.events.filterMap fun
    | .enter (.selectionSet set) => some (some set)
    | .enter (.field field) => if field.selections.isNone then some none else none
    | _ => none

end QueryLint.Language
