import QueryLint.Proofs.Tracking.Brackets

/-!
# How walks nest

A `Forest` is what a walk tells a tracker: a row of nodes, each with a row of nodes in it. It fits
if nodes stand only where the grammar has them. Nothing has to be there, so the trees of texts with
syntax errors fit too, whatever they lack.

Main statement: `Tracker.walk_restores`. The calls of a forest are bracketed. If it fits, and no
directive and no enum value is in force, they lead the tracker back to where it was. The walk of a
document and of every part of one makes the calls of a forest that fits.

Directives and enum values are not on stacks. The tracker gets back because a directive never stands
in another one, nor an enum value in another one.
-/

namespace QueryLint

open QueryLint.Language

/-- The kinds of node that a value can begin with, as far as a tracker is told of them. -/
def NodeKind.valueKinds : List NodeKind := [enumValue, list, objectField]

/-- The kinds of node that stand directly in a node of a kind, as far as a tracker is told of them.
The directives of a fragment spread stand in the selection set. -/
def NodeKind.parts : NodeKind → List NodeKind
  | document => [operation, fragment]
  | operation => [variableDefinition, directive, selectionSet]
  | fragment | inlineFragment => [directive, selectionSet]
  | selectionSet => [field, inlineFragment, directive]
  | field => [argument, directive, selectionSet]
  | variableDefinition => directive :: valueKinds
  | directive => [argument]
  | argument | list | objectField => valueKinds
  | enumValue | spread | namedType => []

/-- Nodes in a row, each with the nodes in it. -/
inductive Forest where
  | nil
  | node (opening : Opening) (parts rest : Forest)

namespace Forest

/-- The calls of a walk over the nodes. -/
def calls : Forest → List Call
  | nil => []
  | node opening parts rest => Call.around opening parts.calls ++ rest.calls

/-- The nodes stand where the grammar has them, the outermost ones in a node of this kind. -/
def Fits (outer : NodeKind) : Forest → Prop
  | nil => True
  | node opening parts rest =>
    opening.kind ∈ outer.parts ∧ parts.Fits opening.kind ∧ rest.Fits outer

/-- The nodes of two rows. -/
def append : Forest → Forest → Forest
  | nil, second => second
  | node opening parts rest, second => node opening parts (rest.append second)

theorem calls_append (first second : Forest) :
    (first.append second).calls = first.calls ++ second.calls := by
  induction first with
  | nil => rfl
  | node opening parts rest _ ih => simp [append, calls, ih]

theorem Fits.append {outer : NodeKind} {first second : Forest} (hfirst : first.Fits outer)
    (hsecond : second.Fits outer) : (first.append second).Fits outer := by
  induction first with
  | nil => exact hsecond
  | node opening parts rest _ ih => exact ⟨hfirst.1, hfirst.2.1, ih hfirst.2.2⟩

/-- The calls of a forest are bracketed. -/
theorem bracketed_calls (forest : Forest) : Bracketed forest.calls := by
  induction forest with
  | nil => exact .nil
  | node opening parts rest ihparts ihrest => exact (ihparts.around opening).append ihrest

end Forest

/-! ## Getting back -/

/-- Whether a directive can stand in a node of a kind, at any depth. -/
def NodeKind.admitsDirectives : NodeKind → Bool
  | document | operation | fragment | inlineFragment | selectionSet | field
  | variableDefinition => true
  | directive | argument | list | objectField | enumValue | spread | namedType => false

/-- A directive stands only where directives can. -/
theorem NodeKind.admitsDirectives_of_mem_parts (outer : NodeKind) :
    ∀ inner ∈ outer.parts, inner = directive ∨ inner.admitsDirectives = true →
      outer.admitsDirectives = true := by
  cases outer <;> decide

namespace Tracker

section

variable (schema : Schema) (tracker : Tracker)

theorem directive_opened {opening : Opening} (h : opening.kind ≠ .directive) :
    (tracker.opened schema opening).directive = tracker.directive := by
  cases opening with
  | directive name => exact absurd rfl h
  | _ => rfl

theorem enumValue_opened {opening : Opening} (h : opening.kind ≠ .enumValue) :
    (tracker.opened schema opening).enumValue = tracker.enumValue := by
  cases opening with
  | enumValue name => exact absurd rfl h
  | _ => rfl

/-- Leaving undoes entering, unless that replaced a directive or an enum value in force. -/
theorem leave_opened {opening : Opening}
    (hdirective : opening.kind = .directive → tracker.directive = none)
    (henum : opening.kind = .enumValue → tracker.enumValue = none) :
    (tracker.opened schema opening).leave opening.kind = tracker := by
  cases opening with
  | directive name => simp [opened, leave, Opening.kind, ← hdirective rfl]
  | enumValue name => simp [opened, leave, Opening.kind, ← henum rfl]
  | _ => rfl

end

/-- The calls of a forest that fits lead the tracker back, if no enum value is in force, and no
directive where another one can come. -/
theorem after_calls_of_fits {schema : Schema} {forest : Forest} {outer : NodeKind}
    (hfits : forest.Fits outer) {tracker : Tracker} (henum : tracker.enumValue = none)
    (hdirective : outer.admitsDirectives = true → tracker.directive = none) :
    tracker.after schema forest.calls = tracker := by
  induction forest generalizing outer tracker with
  | nil => rfl
  | node opening parts rest ihparts ihrest =>
      obtain ⟨hkind, hparts, hrest⟩ := hfits
      have hadmits (h : opening.kind = .directive ∨ opening.kind.admitsDirectives = true) :
          tracker.directive = none :=
        hdirective (outer.admitsDirectives_of_mem_parts opening.kind hkind h)
      have hinside : (tracker.opened schema opening).after schema parts.calls =
          tracker.opened schema opening := by
        by_cases hvalue : opening.kind = .enumValue
        · -- Here an enum value is in force, but nothing stands in it.
          cases parts with
          | nil => rfl
          | node inner _ _ =>
              rw [hvalue] at hparts
              exact absurd hparts.1 List.not_mem_nil
        · refine ihparts hparts ((tracker.enumValue_opened schema hvalue).trans henum) fun h ↦ ?_
          have hother : opening.kind ≠ .directive := by
            intro hsame
            rw [hsame] at h
            cases h
          exact (tracker.directive_opened schema hother).trans (hadmits (.inr h))
      have hleave := tracker.leave_opened schema (fun h ↦ hadmits (.inl h)) fun _ ↦ henum
      rw [Forest.calls, after_append, after_around, hinside, hleave]
      exact ihrest hrest henum hdirective

end Tracker

/-! ## Walks -/

/-- A walk with these events tells a tracker of nodes that stand in a node of a kind. -/
def TellsOf (outer : NodeKind) (events : List Event) : Prop :=
  ∃ forest : Forest, forest.Fits outer ∧ events.flatMap Event.calls = forest.calls

namespace TellsOf

variable {outer : NodeKind}

theorem nil : TellsOf outer [] := ⟨.nil, trivial, rfl⟩

theorem append {first second : List Event} (hfirst : TellsOf outer first)
    (hsecond : TellsOf outer second) : TellsOf outer (first ++ second) := by
  obtain ⟨forest, hfits, hcalls⟩ := hfirst
  obtain ⟨other, hother, hrest⟩ := hsecond
  refine ⟨forest.append other, hfits.append hother, ?_⟩
  rw [List.flatMap_append, hcalls, hrest, Forest.calls_append]

theorem flatMap {α : Type} {events : α → List Event} (h : ∀ item, TellsOf outer (events item))
    (items : List α) : TellsOf outer (items.flatMap events) := by
  induction items with
  | nil => exact nil
  | cons item rest ih =>
      rw [List.flatMap_cons]
      exact (h item).append ih

/-- Of some events the tracker is not told. -/
theorem untold {event : Event} (h : event.calls = []) : TellsOf outer [event] :=
  ⟨.nil, trivial, by simp [h, Forest.calls]⟩

theorem around {node : Node} {parts : List Event} (kind : NodeKind)
    (hnode : node.opening?.map Opening.kind = some kind) (hkind : kind ∈ outer.parts)
    (hparts : TellsOf kind parts) : TellsOf outer (Event.around node parts) := by
  obtain ⟨forest, hfits, hcalls⟩ := hparts
  obtain ⟨opening, hopening, rfl⟩ := Option.map_eq_some_iff.mp hnode
  refine ⟨.node opening forest .nil, ⟨hkind, hfits, trivial⟩, ?_⟩
  simp [Event.around, Event.calls, hopening, Forest.calls, Call.around, hcalls]

mutual
theorem of_value {outer : NodeKind} (h : NodeKind.valueKinds ⊆ outer.parts) (value : Value) :
    TellsOf outer value.events := by
  cases value with
  | enum name =>
      have hkind : NodeKind.enumValue ∈ outer.parts := h (by decide)
      exact ⟨.node (.enumValue (some name.text)) .nil .nil, ⟨hkind, trivial, trivial⟩, rfl⟩
  | list span items => exact .around .list rfl (h (by decide)) (of_items (List.Subset.refl _) items)
  | object span fields => exact of_fields h fields
  | var span name => exact .untold rfl
  | int | float | string | boolean | null => exact .nil

theorem of_items {outer : NodeKind} (h : NodeKind.valueKinds ⊆ outer.parts)
    (items : List Value) : TellsOf outer (eventsOfItems items) := by
  cases items with
  | nil => exact .nil
  | cons item rest => exact (of_value h item).append (of_items h rest)

theorem of_objectField {outer : NodeKind} (h : NodeKind.valueKinds ⊆ outer.parts)
    (field : ObjectField) : TellsOf outer field.events := by
  obtain ⟨span, name, value⟩ := field
  have hkind : NodeKind.objectField ∈ outer.parts := h (by decide)
  cases value with
  | none => exact .around .objectField rfl hkind .nil
  | some value => exact .around .objectField rfl hkind (of_value (List.Subset.refl _) value)

theorem of_fields {outer : NodeKind} (h : NodeKind.valueKinds ⊆ outer.parts)
    (fields : List ObjectField) : TellsOf outer (eventsOfFields fields) := by
  cases fields with
  | nil => exact .nil
  | cons field rest => exact (of_objectField h field).append (of_fields h rest)
end

theorem of_optional (h : NodeKind.valueKinds ⊆ outer.parts) (value : Option Value) :
    TellsOf outer (eventsOfOptional value) := by
  cases value with
  | none => exact .nil
  | some value => exact of_value h value

theorem of_argument (h : .argument ∈ outer.parts) (argument : Argument) :
    TellsOf outer argument.events :=
  .around .argument rfl h (of_optional (List.Subset.refl _) argument.value)

theorem of_directive (h : .directive ∈ outer.parts) (directive : Directive) :
    TellsOf outer directive.events := by
  have hargument : NodeKind.argument ∈ NodeKind.directive.parts := by decide
  exact .around .directive rfl h (.flatMap (of_argument hargument) directive.arguments)

theorem of_directives (h : .directive ∈ outer.parts) (directives : List Directive) :
    TellsOf outer (directives.flatMap Directive.events) :=
  .flatMap (of_directive h) directives

/-- Of a type condition the tracker is told with the node that has it. -/
theorem of_condition (condition : Option Name) : TellsOf outer (eventsOfCondition condition) := by
  cases condition with
  | none => exact .nil
  | some name => exact .untold rfl

mutual
theorem of_field (field : Field) : TellsOf .selectionSet field.events := by
  obtain ⟨span, aliasName, name, arguments, directives, selections⟩ := field
  have harguments : TellsOf .field (arguments.flatMap Argument.events) :=
    .flatMap (of_argument (by decide)) arguments
  have hparts := harguments.append (of_directives (by decide) directives)
  cases selections with
  | none => exact .around .field rfl (by decide) hparts
  | some selections =>
      have hall := hparts.append (of_selectionSet (by decide) selections)
      exact .around .field rfl (by decide) hall

theorem of_inlineFragment (fragment : InlineFragment) :
    TellsOf .selectionSet fragment.events := by
  obtain ⟨span, condition, directives, selections⟩ := fragment
  have hcondition : TellsOf .inlineFragment (eventsOfCondition condition) := of_condition condition
  have hparts := hcondition.append (of_directives (by decide) directives)
  have hall := hparts.append (of_selectionSet (by decide) selections)
  exact .around .inlineFragment rfl (by decide) hall

theorem of_selectionSet {outer : NodeKind} (h : .selectionSet ∈ outer.parts)
    (set : SelectionSet) : TellsOf outer set.events := by
  obtain ⟨span, items⟩ := set
  exact .around .selectionSet rfl h (of_selections items)

theorem of_selection (selection : Selection) : TellsOf .selectionSet selection.events := by
  cases selection with
  | field it => exact of_field it
  | inline it => exact of_inlineFragment it
  | spread span name directives =>
      have hspread : TellsOf .selectionSet [.visit (.spread span name)] := .untold rfl
      exact hspread.append (of_directives (by decide) directives)

theorem of_selections (items : List Selection) :
    TellsOf .selectionSet (eventsOfSelections items) := by
  cases items with
  | nil => exact .nil
  | cons selection rest => exact (of_selection selection).append (of_selections rest)
end

theorem of_variableDefinition (definition : VariableDefinition) :
    TellsOf .operation definition.events := by
  have hname : TellsOf .variableDefinition [.mention definition.name] := .untold rfl
  have htype : TellsOf .variableDefinition definition.type.events := by
    rw [TypeExpr.events_eq]
    exact .untold rfl
  have hdefault : TellsOf .variableDefinition (eventsOfOptional definition.default) :=
    of_optional (by decide) definition.default
  have hparts := hdefault.append (of_directives (by decide) definition.directives)
  exact .around .variableDefinition rfl (by decide) (hname.append (htype.append hparts))

theorem of_operation (operation : Operation) : TellsOf .document operation.events := by
  have hvariables : TellsOf .operation _ :=
    .flatMap of_variableDefinition operation.variableDefinitions
  have hparts := hvariables.append (of_directives (by decide) operation.directives)
  have hall := hparts.append (of_selectionSet (by decide) operation.selections)
  exact .around .operation rfl (by decide) hall

theorem of_fragment (fragment : Fragment) : TellsOf .document fragment.events := by
  have hcondition : TellsOf .fragment [.visit (.namedType fragment.condition)] := .untold rfl
  have hdirectives : TellsOf .fragment _ := of_directives (by decide) fragment.directives
  have hparts := hdirectives.append (of_selectionSet (by decide) fragment.selections)
  exact .around .fragment rfl (by decide) (hcondition.append hparts)

theorem of_definition (definition : Definition) : TellsOf .document definition.events := by
  cases definition with
  | operation it => exact of_operation it
  | fragment it => exact of_fragment it
  | schema | directive | type | extendSchema | extendType => exact .nil

theorem of_document (document : Document) : TellsOf .document document.events := by
  have hfirst : TellsOf .document [.enter (.document document)] := .untold rfl
  have hlast : TellsOf .document [.leave (.document document)] := .untold rfl
  have hparts := TellsOf.flatMap of_definition document.definitions
  exact hfirst.append (hparts.append hlast)

end TellsOf

/-- What a walk can be of: a whole document or a part of one. -/
inductive Language.Part where
  | document (it : Document)
  | definition (it : Definition)
  | selectionSet (it : SelectionSet)
  | value (it : Value)
  | directives (items : List Directive)

/-- The events of the walk of a part. -/
def Language.Part.events : Part → List Event
  | document it => it.events
  | definition it => it.events
  | selectionSet it => it.events
  | value it => it.events
  | directives items => items.flatMap Directive.events

/-- A part tells of nodes that stand in some kind of node. -/
theorem Language.Part.exists_tellsOf (part : Part) : ∃ outer, TellsOf outer part.events := by
  cases part with
  | document it => exact ⟨.document, .of_document it⟩
  | definition it => exact ⟨.document, .of_definition it⟩
  | selectionSet it => exact ⟨.field, .of_selectionSet (by decide) it⟩
  | value it => exact ⟨.argument, .of_value (List.Subset.refl _) it⟩
  | directives items => exact ⟨.field, .of_directives (by decide) items⟩

end QueryLint
