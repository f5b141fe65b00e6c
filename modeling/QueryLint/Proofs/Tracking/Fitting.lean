import QueryLint.Proofs.Schema.Fitting
import QueryLint.Tracking.Site

/-!
# Tracking under a fitted schema

What is in force along a walk is made up of look-ups, and these go through on fitted types as they
do on the types themselves. So a fitted tracker goes on under the fitted schema as the tracker does
under the schema (`Tracker.step_fitted`). Main statement: `Document.sites_fitted`. Under the fitted
schema a document has the same sites, with fitted types in force.
-/

namespace QueryLint

open QueryLint.Language

/-- The same in force, with fitted types. -/
def Context.fitted (context : Context) : Context :=
  { context with
    type := context.type.map ResolvedType.fitted
    parent := context.parent.map TypeDef.fitted
    input := context.input.map ResolvedType.fitted }

/-- The site with fitted types in force. -/
def Site.fitted (site : Site) : Site := { site with context := site.context.fitted }

/-- The tracker with fitted types on its stacks. -/
def Tracker.fitted (tracker : Tracker) : Tracker :=
  { tracker with
    types := tracker.types.map (Option.map ResolvedType.fitted)
    parents := tracker.parents.map (Option.map TypeDef.fitted)
    inputs := tracker.inputs.map (Option.map ResolvedType.fitted) }

theorem join_head?_map {α β : Type} (f : α → β) (stack : List (Option α)) :
    (stack.map (Option.map f)).head?.join = stack.head?.join.map f := by
  cases stack <;> rfl

/-! ## Look-ups in what is in force -/

namespace Context

variable (context : Context) (name : String)

theorem map_namedType_fitted :
    context.fitted.type.map (fun type ↦ .named type.namedType) =
      (context.type.map fun type ↦ .named type.namedType).map ResolvedType.fitted := by
  unfold fitted
  cases context.type <;> simp [ResolvedType.fitted]

theorem bind_parentType?_fitted :
    context.fitted.type.bind ResolvedType.parentType? =
      (context.type.bind ResolvedType.parentType?).map TypeDef.fitted := by
  unfold fitted
  cases context.type <;> simp

theorem bind_selectable?_fitted :
    context.fitted.parent.bind (·.selectable? name) =
      context.parent.bind (·.selectable? name) := by
  unfold fitted
  cases context.parent <;> simp

theorem map_itemType_fitted :
    context.fitted.input.map ResolvedType.itemType =
      (context.input.map ResolvedType.itemType).map ResolvedType.fitted := by
  unfold fitted
  cases context.input <;> simp

theorem bind_inputField?_fitted :
    context.fitted.input.bind (·.namedType.inputField? name) =
      context.input.bind (·.namedType.inputField? name) := by
  unfold fitted
  cases context.input <;> simp

theorem bind_enumValue?_fitted :
    context.fitted.input.bind (·.namedType.enumValue? name) =
      context.input.bind (·.namedType.enumValue? name) := by
  unfold fitted
  cases context.input <;> simp

end Context

namespace Schema

variable (schema : Schema)

theorem bind_outputType?_fitted (field : Option FieldDef) :
    field.bind (schema.fitted.outputType? ·.type) =
      (field.bind (schema.outputType? ·.type)).map ResolvedType.fitted := by
  cases field <;> simp

theorem bind_inputType?_fitted (value : Option InputValueDef) :
    value.bind (schema.fitted.inputType? ·.type) =
      (value.bind (schema.inputType? ·.type)).map ResolvedType.fitted := by
  cases value <;> simp

end Schema

/-! ## Walks -/

namespace Tracker

variable (tracker : Tracker) (schema : Schema)

@[simp] theorem context_fitted : tracker.fitted.context = tracker.context.fitted := by
  simp only [context, fitted, Context.fitted, join_head?_map]

@[simp] theorem arguments?_fitted : tracker.fitted.arguments? = tracker.arguments? := by
  simp only [arguments?, context_fitted]
  rfl

@[simp] theorem pushType_fitted (type : Option ResolvedType) :
    tracker.fitted.pushType (type.map ResolvedType.fitted) = (tracker.pushType type).fitted := rfl

@[simp] theorem pushInput_fitted (type : Option ResolvedType) :
    tracker.fitted.pushInput (type.map ResolvedType.fitted) = (tracker.pushInput type).fitted :=
  rfl

/-- A fitted tracker enters a node under the fitted schema as the tracker does under the schema. -/
theorem enter_fitted (node : Node) :
    tracker.fitted.enter schema.fitted node = (tracker.enter schema node).fitted := by
  cases node with
  | operation operation => simp [enter]
  | fragment fragment => simp [enter]
  | inlineFragment fragment =>
      cases hcondition : fragment.condition with
      | some condition => simp [enter, hcondition]
      | none =>
          simp only [enter, hcondition, context_fitted, Context.map_namedType_fitted,
            pushType_fitted]
  | selectionSet set =>
      simp only [enter, context_fitted, Context.bind_parentType?_fitted]
      rfl
  | field field =>
      simp only [enter, context_fitted, Context.bind_selectable?_fitted,
        Schema.bind_outputType?_fitted]
      rfl
  | directive directive => rfl
  | variableDefinition definition => simp [enter]
  | argument argument =>
      simp only [enter, arguments?_fitted, Schema.bind_inputType?_fitted, pushInput_fitted]
  | list span items =>
      simp only [enter, context_fitted, Context.map_itemType_fitted, pushInput_fitted]
  | objectField field =>
      simp only [enter, context_fitted, Context.bind_inputField?_fitted,
        Schema.bind_inputType?_fitted, pushInput_fitted]
  | enumValue name =>
      simp only [enter, context_fitted, Context.bind_enumValue?_fitted]
      rfl
  | document | spread | namedType => rfl

theorem leave_fitted (kind : NodeKind) :
    tracker.fitted.leave kind = (tracker.leave kind).fitted := by
  cases kind <;> simp [leave, fitted]

/-- Every event does to a fitted tracker what it does to the tracker. -/
theorem step_fitted (event : Event) :
    tracker.fitted.step schema.fitted event = (tracker.step schema event).fitted := by
  cases event with
  | enter node => exact tracker.enter_fitted schema node
  | leave node => exact tracker.leave_fitted node.kind
  | visit node => rw [step, enter_fitted, leave_fitted, step]
  | mention name => rfl

theorem sitesAt_fitted (event : Event) :
    tracker.fitted.sitesAt schema.fitted event =
      (tracker.sitesAt schema event).map Site.fitted := by
  simp only [sitesAt, enter_fitted, context_fitted, List.map_map]
  rfl

theorem sites_fitted (events : List Event) :
    tracker.fitted.sites schema.fitted events =
      (tracker.sites schema events).map Site.fitted := by
  induction events generalizing tracker with
  | nil => rfl
  | cons event rest ih =>
      rw [sites, sitesAt_fitted, step_fitted, ih, sites, List.map_append]

end Tracker

/-- Under the fitted schema a document has the sites that it has under the schema, with fitted types
in force. -/
theorem Language.Document.sites_fitted (schema : Schema) (document : Document) :
    document.sites schema.fitted = (document.sites schema).map Site.fitted :=
  Tracker.start.sites_fitted schema document.events

end QueryLint
