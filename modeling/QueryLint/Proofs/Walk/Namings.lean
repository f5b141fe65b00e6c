import QueryLint.Proofs.Tracking.Scopes
import QueryLint.Proofs.Walk.Rows

/-!
# Operations and types that a document names

`Document.namings` reads off a document, in the order of the text, its operations and the types that
it names: those of variables, below all layers, and the type conditions at any depth. Main statement:
`Document.filterMap_naming?_sites`. These are the operations and the named types that a walk meets,
whatever the schema.
-/

namespace QueryLint

open QueryLint.Language

/-- An operation, which may have a name, or the name of a type in use. -/
inductive Naming where
  | operation (it : Operation)
  | type (name : Name)

/-- The naming that a node is, if it is one. -/
def Node.naming? : Node → Option Naming
  | operation it => some (.operation it)
  | namedType name => some (.type name)
  | _ => none

end QueryLint

namespace QueryLint.Language

/-! ## Type conditions -/

mutual
/-- The type conditions in the selection set of a field, if it has one. -/
def Field.conditions : Field → List Name
  | ⟨_, _, _, _, _, none⟩ => []
  | ⟨_, _, _, _, _, some selections⟩ => selections.conditions

/-- The type condition of an inline fragment, if it has one, and those in its selection set. -/
def InlineFragment.conditions : InlineFragment → List Name
  | ⟨_, condition, _, selections⟩ => condition.toList ++ selections.conditions

/-- The type conditions in a selection set, at any depth. -/
def SelectionSet.conditions : SelectionSet → List Name
  | ⟨_, items⟩ => conditionsOf items

/-- The type conditions in a selection. A spread has none. -/
def Selection.conditions : Selection → List Name
  | .field it => it.conditions
  | .inline it => it.conditions
  | .spread _ _ _ => []

/-- The type conditions in selections. -/
def conditionsOf : List Selection → List Name
  | [] => []
  | selection :: rest => selection.conditions ++ conditionsOf rest
end

theorem conditionsOf_eq_flatMap (items : List Selection) :
    conditionsOf items = items.flatMap Selection.conditions := by
  induction items with
  | nil => rfl
  | cons item rest ih => rw [conditionsOf, ih, List.flatMap_cons]

/-! ## Definitions and documents -/

/-- The namings in a definition. In an operation these are the operation itself, the innermost types
of its variables and the type conditions in its selection set; in a fragment its type condition and
those in its selection set. The type system has none. -/
def Definition.namings : Definition → List Naming
  | .operation it =>
    .operation it ::
      ((it.variableDefinitions.map (·.type.name) ++ it.selections.conditions).map .type)
  | .fragment it => (it.condition :: it.selections.conditions).map .type
  | .schema _ | .directive _ | .type _ | .extendSchema _ | .extendType _ => []

/-- The namings in a document. -/
def Document.namings (document : Document) : List Naming :=
  document.definitions.flatMap Definition.namings

namespace Construct

/-- The namings in a construct. -/
def namings : Construct → List Naming
  | definition it => it.namings
  | variableDefinition it => [.type it.type.name]
  | type it => [.type it.name]
  | namedType name => [.type name]
  | selectionSet it => it.conditions.map .type
  | selection it => it.conditions.map .type
  | declared _ | value _ | objectField _ | argument _ | directive _ => []
  | rootDefinition _ | fieldDefinition _ | inputValueDefinition _ | enumValueDefinition _ => []

/-- The naming that a construct is itself, if it is one. -/
def naming? (here : Construct) : Option Naming :=
  (here.event?.bind Event.begins?).bind Node.naming?

/-- What names a type itself is that named type. -/
theorem eq_namedType_of_naming? {here : Construct} {name : Name}
    (h : here.naming? = some (.type name)) : here = .namedType name := by
  cases here with
  | namedType other =>
      cases h
      rfl
  | definition it => cases it <;> cases h
  | value it => cases it <;> cases h
  | selection it => cases it <;> cases h
  | _ => cases h

/-- Constructs of a kind that holds no namings have none in a row either. -/
theorem flatMap_namings_eq_nil {α : Type} {construct : α → Construct}
    (h : ∀ item, (construct item).namings = []) (items : List α) :
    (items.map construct).flatMap namings = [] := by
  rw [List.flatMap_map]
  exact List.flatMap_eq_nil_iff.mpr fun item _ ↦ h item

/-- A variable names one type. -/
theorem flatMap_namings_variableDefinitions (items : List VariableDefinition) :
    (items.map variableDefinition).flatMap namings =
      items.map fun it ↦ .type it.type.name := by
  rw [List.flatMap_map, List.map_eq_flatMap]
  rfl

/-- A construct comes first if it is a naming, and then come those in its parts. -/
theorem namings_eq (here : Construct) :
    here.namings = here.naming?.toList ++ here.walkedParts.flatMap namings := by
  have harguments : ∀ items : List Argument, (items.map argument).flatMap namings = [] :=
    flatMap_namings_eq_nil fun _ ↦ rfl
  have hdirectives : ∀ items : List Directive, (items.map directive).flatMap namings = [] :=
    flatMap_namings_eq_nil fun _ ↦ rfl
  cases here with
  | definition it =>
      cases it with
      | operation it =>
          show _ = .operation it :: ((it.variableDefinitions.map variableDefinition ++
            it.directives.map directive ++ [selectionSet it.selections]).flatMap namings)
          simp [namings, Definition.namings, hdirectives, flatMap_namings_variableDefinitions]
      | fragment it =>
          show _ = ((namedType it.condition :: (it.directives.map directive ++
            [selectionSet it.selections])).flatMap namings)
          simp [namings, Definition.namings, hdirectives]
      | schema | directive | type | extendSchema | extendType => rfl
  | variableDefinition it =>
      have hdefault : (it.default.toList.map value).flatMap namings = [] :=
        flatMap_namings_eq_nil (fun _ ↦ rfl) it.default.toList
      show _ = ((declared it.name :: type it.type :: (it.default.toList.map value ++
        it.directives.map directive)).flatMap namings)
      simp [namings, hdirectives, hdefault]
  | type it => cases it <;> rfl
  | value it =>
      cases it with
      | list span items => exact (flatMap_namings_eq_nil (fun _ ↦ rfl) items).symm
      | object span fields => exact (flatMap_namings_eq_nil (fun _ ↦ rfl) fields).symm
      | _ => rfl
  | objectField it => exact (flatMap_namings_eq_nil (fun _ ↦ rfl) it.value.toList).symm
  | argument it => exact (flatMap_namings_eq_nil (fun _ ↦ rfl) it.value.toList).symm
  | directive it => exact (harguments it.arguments).symm
  | selectionSet it =>
      obtain ⟨span, items⟩ := it
      show (conditionsOf items).map .type = (items.map selection).flatMap namings
      rw [conditionsOf_eq_flatMap, List.map_flatMap, List.flatMap_map]
      rfl
  | selection it =>
      cases it with
      | field it =>
          obtain ⟨span, aliasName, name, arguments, directives, selections⟩ := it
          show _ = ((arguments.map argument ++ directives.map directive ++
            selections.toList.map selectionSet).flatMap namings)
          cases selections <;>
            simp [namings, Selection.conditions, Field.conditions, harguments, hdirectives]
      | inline it =>
          obtain ⟨span, condition, directives, selections⟩ := it
          show _ = ((condition.toList.map namedType ++ directives.map directive ++
            [selectionSet selections]).flatMap namings)
          cases condition <;>
            simp [namings, Selection.conditions, InlineFragment.conditions, hdirectives]
      | spread span name directives => exact (hdirectives directives).symm
  | declared | namedType => rfl
  | rootDefinition | fieldDefinition | inputValueDefinition | enumValueDefinition => rfl

/-- The sites in a row of constructs that are namings are those of the namings in it, whatever the
schema and the scope. -/
theorem filterMap_naming?_descent (schema : Schema) (scope : Scope) (row : List Construct) :
    (row.flatMap (descent schema scope)).filterMap (·.node.naming?) = row.flatMap namings := by
  induction row using row_induction generalizing scope with
  | nil => rfl
  | cons here rest ihparts ihrest =>
      have hself : (here.site? schema scope).toList.filterMap (·.node.naming?) =
          here.naming?.toList := by
        unfold site? naming?
        cases here.event?.bind Event.begins? with
        | none => rfl
        | some node => cases h : node.naming? <;> simp [h]
      have hparts : (here.walkedParts.flatMap (descent schema (scope.into schema here))).filterMap
          (·.node.naming?) = here.walkedParts.flatMap namings := by
        unfold walkedParts
        cases here.isWalked with
        | true => exact ihparts (scope.into schema here)
        | false => rfl
      rw [List.flatMap_cons, List.filterMap_append, descent_eq, List.filterMap_append, hself,
        hparts, ihrest scope, List.flatMap_cons, namings_eq]

end Construct

/-- The operations and the named types that a walk meets are the namings in the document, whatever
the schema. -/
theorem Document.filterMap_naming?_sites (schema : Schema) (document : Document) :
    (document.sites schema).filterMap (·.node.naming?) = document.namings := by
  have hrow := Construct.filterMap_naming?_descent schema .outside
    (document.definitions.map .definition)
  rw [List.flatMap_map, List.flatMap_map] at hrow
  have hsites : document.sites schema = document.descent schema :=
    (Tracker.covers_document schema document).sites_eq
  rw [hsites]
  exact hrow

end QueryLint.Language
