import Mathlib.Data.List.Forall2
import QueryLint.Proofs.Schema.Inclusion
import QueryLint.Tracking.Site

/-!
# Two trackers in step

What happens along a walk does not depend on a schema, so two trackers with different schemas go
through the same events. Main statement: `Document.sites_within`. If one schema is within the other,
then at every node what the first tracker shows is within what the second one shows.

`Tracker.Within` compares the two stack by stack. Entering and leaving a node keep it
(`Tracker.Within.enter` and `Tracker.Within.leave`), so it holds all along.
-/

namespace QueryLint

open QueryLint.Language

/-- What is in force on the left is in force on the right. -/
structure Context.Within (small large : Context) : Prop where
  type : Kept ResolvedType.Within small.type large.type
  parent : Kept TypeDef.Within small.parent large.parent
  field : Kept FieldDef.Within small.field large.field
  input : Kept ResolvedType.Within small.input large.input
  enumValue : Kept Eq small.enumValue large.enumValue

/-- The two sites are at the same node, and what is in force at the first is in force at the second.
-/
structure Site.Within (small large : Site) : Prop where
  node : large.node = small.node
  context : small.context.Within large.context

/-- The stacks of the two trackers are of the same height and within each other at every height. The
directives in force are the same, or neither has one. -/
structure Tracker.Within (small large : Tracker) : Prop where
  types : List.Forall₂ (Kept ResolvedType.Within) small.types large.types
  parents : List.Forall₂ (Kept TypeDef.Within) small.parents large.parents
  fields : List.Forall₂ (Kept FieldDef.Within) small.fields large.fields
  inputs : List.Forall₂ (Kept ResolvedType.Within) small.inputs large.inputs
  directive : Option.Rel DirectiveDef.Within small.directive large.directive
  enumValue : Kept Eq small.enumValue large.enumValue

section

variable {α β : Type} {r : α → β → Prop}

theorem Kept.head? {left : List (Option α)} {right : List (Option β)}
    (h : List.Forall₂ (Kept r) left right) : Kept r left.head?.join right.head?.join := by
  cases h with
  | nil => exact of_none none
  | cons hhead _ => simpa using hhead

theorem forall₂_tail {left : List α} {right : List β} (h : List.Forall₂ r left right) :
    List.Forall₂ r left.tail right.tail := by
  cases h with
  | nil => exact .nil
  | cons _ htail => exact htail

end

namespace Tracker.Within

theorem start : Tracker.start.Within Tracker.start :=
  ⟨.nil, .nil, .nil, .nil, .none, .of_none none⟩

variable {small large : Tracker} {schema other : Schema}

theorem context (h : small.Within large) : small.context.Within large.context where
  type := .head? h.types
  parent := .head? h.parents
  field := .head? h.fields
  input := .head? h.inputs
  enumValue := h.enumValue

/-- The arguments on offer on the left are on offer on the right. If there is no directive on the
left, there is none on the right that could hide those of the field. -/
theorem arguments? (h : small.Within large) :
    Kept (Table.Within InputValueDef.Alike) small.arguments? large.arguments? := by
  have hdirective := h.directive
  have hfields := h.context.field
  unfold Tracker.arguments?
  -- One case analysis for both sides: a directive on one of them only is ruled out.
  generalize small.directive = left, large.directive = right at hdirective ⊢
  cases hdirective with
  | some hwithin => exact .of_some hwithin
  | none => exact hfields.map fun _ _ hfield ↦ hfield.arguments

/-- Entering a node keeps one tracker within the other. -/
theorem enter (h : small.Within large) (hschema : schema.Within other) (node : Node) :
    (small.enter schema node).Within (large.enter other node) := by
  have hhere := h.context
  cases node with
  | operation operation =>
      exact { h with types := .cons (hschema.operationType? operation.kind) h.types }
  | fragment fragment =>
      exact { h with types := .cons (hschema.conditionType? fragment.condition.text) h.types }
  | inlineFragment fragment =>
      refine { h with types := .cons ?_ h.types }
      cases fragment.condition with
      | some condition => exact hschema.conditionType? condition.text
      | none => exact hhere.type.map fun _ _ htype ↦ htype
  | selectionSet set =>
      have hparent := hhere.type.bind fun _ _ htype ↦ htype.parentType?
      exact { h with parents := .cons hparent h.parents }
  | field field =>
      have hfield := hhere.parent.bind fun _ _ hparent ↦ hparent.selectable? field.name.text
      have htype := hfield.bind fun _ _ hdefinition ↦ hschema.outputType? hdefinition.type
      exact { h with fields := .cons hfield h.fields, types := .cons htype h.types }
  | directive directive =>
      exact { h with directive := hschema.directives directive.name.text }
  | variableDefinition definition =>
      exact { h with inputs := .cons (hschema.inputType? rfl) h.inputs }
  | argument argument =>
      have hargument := h.arguments?.bind fun _ _ htable ↦ htable argument.name.text
      have hinput := hargument.bind fun _ _ hvalue ↦ hschema.inputType? hvalue
      exact { h with inputs := .cons hinput h.inputs }
  | list span items =>
      have hitem := hhere.input.map fun _ _ htype ↦ htype.itemType
      exact { h with inputs := .cons hitem h.inputs }
  | objectField field =>
      have hfield := hhere.input.bind fun _ _ htype ↦
        TypeDef.Within.inputField? htype field.name.text
      have hinput := hfield.bind fun _ _ hvalue ↦ hschema.inputType? hvalue
      exact { h with inputs := .cons hinput h.inputs }
  | enumValue name =>
      have hvalue := hhere.input.bind fun _ _ htype ↦ TypeDef.Within.enumValue? htype name.text
      exact { h with enumValue := hvalue }
  | document | spread | namedType => exact h

/-- Leaving a node keeps one tracker within the other. -/
theorem leave (h : small.Within large) (kind : NodeKind) :
    (small.leave kind).Within (large.leave kind) := by
  cases kind with
  | operation | fragment | inlineFragment => exact { h with types := forall₂_tail h.types }
  | selectionSet => exact { h with parents := forall₂_tail h.parents }
  | field =>
      exact { h with fields := forall₂_tail h.fields, types := forall₂_tail h.types }
  | directive => exact { h with directive := .none }
  | variableDefinition | argument | list | objectField =>
      exact { h with inputs := forall₂_tail h.inputs }
  | enumValue => exact { h with enumValue := .of_none none }
  | document | spread | namedType => exact h

theorem step (h : small.Within large) (hschema : schema.Within other) (event : Event) :
    (small.step schema event).Within (large.step other event) := by
  cases event with
  | enter node => exact h.enter hschema node
  | leave node => exact h.leave node.kind
  | visit node => exact (h.enter hschema node).leave node.kind
  | mention name => exact h

theorem sitesAt (h : small.Within large) (hschema : schema.Within other) (event : Event) :
    List.Forall₂ Site.Within (small.sitesAt schema event) (large.sitesAt other event) := by
  cases event with
  | enter node | visit node => exact .cons ⟨rfl, (h.enter hschema node).context⟩ .nil
  | leave | mention => exact .nil

/-- All along a walk one tracker shows what is within what the other shows. -/
theorem sites (h : small.Within large) (hschema : schema.Within other) (events : List Event) :
    List.Forall₂ Site.Within (small.sites schema events) (large.sites other events) := by
  -- The trackers are general: those that meet the rest are the ones after the first event.
  induction events generalizing small large with
  | nil => exact .nil
  | cons event rest ih =>
      exact List.rel_append (h.sitesAt hschema event) (ih (h.step hschema event))

end Tracker.Within

/-- Under a schema and another one that it is within, the sites of a document are at the same nodes,
and what is in force under the first is in force under the other. -/
theorem Language.Document.sites_within {schema other : Schema} (h : schema.Within other)
    (document : Document) :
    List.Forall₂ Site.Within (document.sites schema) (document.sites other) :=
  Tracker.Within.start.sites h document.events

end QueryLint
