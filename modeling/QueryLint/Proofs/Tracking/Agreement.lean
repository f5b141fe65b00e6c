import QueryLint.Proofs.Tracking.Descent

/-!
# A tracker shows what is handed down

Main statement: `Document.sites_eq_descent`. At every node that a walk meets, the stacks of the
tracker show the context that the descent hands down to that node.

The proof goes over the tree. `Tracker.Covers` says of the events of a part that they meet given
sites and lead the tracker back to where it was; `Covers.around` is the step from the parts of a
node to the node. A tracker is `Settled` between directives and enum values, which is what lets an
argument tell the arguments of its field from those of a directive.
-/

namespace QueryLint

open QueryLint.Language

/-! ## Look-ups -/

namespace Schema

theorem inputType?_eq_takes (schema : Schema) (type : TypeRef) :
    schema.inputType? type = schema.takes type := by
  unfold inputType? takes
  cases schema.resolve? type with
  | none => rfl
  | some found => cases h : found.namedType.kind <;> simp [Option.filter, TypeKind.isInput, h]

theorem outputType?_eq_yields (schema : Schema) (type : TypeRef) :
    schema.outputType? type = schema.yields type := by
  unfold outputType? yields
  cases schema.resolve? type with
  | none => rfl
  | some found => cases h : found.namedType.kind <;> simp [Option.filter, TypeKind.isOutput, h]

theorem conditionType?_eq_yields (schema : Schema) (name : String) :
    schema.conditionType? name = schema.yields (.named name) := by
  unfold conditionType? yields resolve?
  cases schema.type? name with
  | none => rfl
  | some found =>
      cases h : found.kind <;>
        simp [Option.filter, TypeKind.isOutput, ResolvedType.namedType, h]

end Schema

theorem ResolvedType.itemType_eq_item (type : ResolvedType) : type.itemType = type.item := by
  cases type with
  | named => rfl
  | list => rfl
  | nonNull inner => cases inner <;> rfl

namespace Tracker

/-! ## One step of a tracker -/

section Enter

variable (schema : Schema) (tracker : Tracker)

@[simp] theorem context_enter_document (document : Document) :
    (tracker.enter schema (.document document)).context = tracker.context := rfl

@[simp] theorem context_enter_operation (operation : Operation) :
    (tracker.enter schema (.operation operation)).context =
      tracker.context.inOperation schema operation.kind := by
  simp only [enter, Schema.operationType?, Context.inOperation]
  cases schema.root? operation.kind with
  | none => rfl
  | some type => cases h : type.kind <;> simp [Option.filter, h, pushType, context]

@[simp] theorem context_enter_fragment (fragment : Fragment) :
    (tracker.enter schema (.fragment fragment)).context =
      tracker.context.underCondition schema fragment.condition.text := by
  simp [enter, pushType, context, Context.underCondition, Schema.conditionType?_eq_yields]

@[simp] theorem context_enter_inlineFragment (fragment : InlineFragment) :
    (tracker.enter schema (.inlineFragment fragment)).context =
      tracker.context.inInline schema fragment.condition := by
  cases h : fragment.condition with
  | none => simp [enter, pushType, context, Context.inInline, h]
  | some condition =>
      simp [enter, pushType, context, Context.inInline, Context.underCondition, h,
        Schema.conditionType?_eq_yields]

@[simp] theorem context_enter_selectionSet (set : SelectionSet) :
    (tracker.enter schema (.selectionSet set)).context = tracker.context.inSelections := by
  simp only [enter, context, Context.inSelections]
  cases tracker.types.head?.join with
  | none => rfl
  | some type =>
      cases h : type.namedType.kind <;>
        simp [Option.filter, ResolvedType.parentType?, TypeKind.isComposite, h]

@[simp] theorem context_enter_field (field : Field) :
    (tracker.enter schema (.field field)).context =
      tracker.context.inField schema field.name.text := by
  simp [enter, context, Context.inField, Schema.outputType?_eq_yields]

@[simp] theorem context_enter_directive (directive : Directive) :
    (tracker.enter schema (.directive directive)).context = tracker.context := rfl

@[simp] theorem context_enter_variableDefinition (definition : VariableDefinition) :
    (tracker.enter schema (.variableDefinition definition)).context =
      tracker.context.inVariable schema definition.type := by
  simp [enter, pushInput, context, Context.inVariable, Schema.inputType?_eq_takes]

@[simp] theorem context_enter_argument (argument : Argument) :
    (tracker.enter schema (.argument argument)).context =
      tracker.context.inArgument schema tracker.arguments? argument.name.text := by
  simp [enter, pushInput, context, Context.inArgument, Schema.inputType?_eq_takes]

@[simp] theorem context_enter_list (span : Span) (items : List Value) :
    (tracker.enter schema (.list span items)).context = tracker.context.inList := by
  have h : ResolvedType.itemType = ResolvedType.item := funext ResolvedType.itemType_eq_item
  simp [enter, pushInput, context, Context.inList, h]

@[simp] theorem context_enter_objectField (field : ObjectField) :
    (tracker.enter schema (.objectField field)).context =
      tracker.context.inObjectField schema field.name.text := by
  simp [enter, pushInput, context, Context.inObjectField, Schema.inputType?_eq_takes]

@[simp] theorem context_enter_enumValue (name : Name) :
    (tracker.enter schema (.enumValue name)).context =
      tracker.context.atEnumValue name.text := rfl

/-- Only a directive changes what directive is in force. -/
theorem directive_enter (node : Node) (h : node.kind ≠ .directive) :
    (tracker.enter schema node).directive = tracker.directive := by
  cases node with
  | directive directive => exact absurd rfl h
  | _ => rfl

/-- Only an enum value changes what enum value is in force. -/
theorem enumValue_enter (node : Node) (h : node.kind ≠ .enumValue) :
    (tracker.enter schema node).enumValue = tracker.enumValue := by
  cases node with
  | enumValue name => exact absurd rfl h
  | _ => rfl

/-- Leaving a node undoes entering it, unless the node replaced a directive or an enum value that
was in force. -/
theorem leave_enter (node : Node)
    (hdirective : node.kind = .directive → tracker.directive = none)
    (henum : node.kind = .enumValue → tracker.enumValue = none) :
    (tracker.enter schema node).leave node.kind = tracker := by
  cases node with
  | directive directive => simp [enter, leave, Node.kind, ← hdirective rfl]
  | enumValue name => simp [enter, leave, Node.kind, ← henum rfl]
  | _ => rfl

end Enter

/-! ## Parts of a document -/

/-- From a tracker, the events of a part meet these sites and lead back to the tracker. -/
structure Covers (schema : Schema) (tracker : Tracker) (events : List Event)
    (sites : List Site) : Prop where
  sites_eq : tracker.sites schema events = sites
  run_eq : tracker.run schema events = tracker

/-- The tracker shows a context, and no enum value is in force. -/
structure Shows (tracker : Tracker) (here : Context) : Prop where
  context_eq : tracker.context = here
  enumValue_eq : tracker.enumValue = none

/-- The tracker shows a context, and neither a directive nor an enum value is in force. -/
structure Settled (tracker : Tracker) (here : Context) : Prop extends Shows tracker here where
  directive_eq : tracker.directive = none

section

variable {schema : Schema} {tracker : Tracker}

namespace Covers

theorem nil : Covers schema tracker [] [] := ⟨rfl, rfl⟩

theorem append {first second : List Event} {sites others : List Site}
    (hfirst : Covers schema tracker first sites)
    (hsecond : Covers schema tracker second others) :
    Covers schema tracker (first ++ second) (sites ++ others) := by
  refine ⟨?_, ?_⟩
  · rw [sites_append, hfirst.sites_eq, hfirst.run_eq, hsecond.sites_eq]
  · rw [run_append, hfirst.run_eq, hsecond.run_eq]

theorem flatMap {α : Type} {events : α → List Event} {sites : α → List Site}
    (h : ∀ item, Covers schema tracker (events item) (sites item)) (items : List α) :
    Covers schema tracker (items.flatMap events) (items.flatMap sites) := by
  induction items with
  | nil => exact nil
  | cons item rest ih =>
      rw [List.flatMap_cons, List.flatMap_cons]
      exact (h item).append ih

theorem mention (schema : Schema) (tracker : Tracker) (name : Name) :
    Covers schema tracker [.mention name] [] := ⟨rfl, rfl⟩

/-- A node without parts is covered where the tracker can come back from it. -/
theorem visit {node : Node} {here : Context}
    (hhere : (tracker.enter schema node).context = here)
    (hleave : (tracker.enter schema node).leave node.kind = tracker) :
    Covers schema tracker [.visit node] [⟨node, here⟩] := by
  subst hhere
  exact ⟨rfl, hleave⟩

/-- A node is covered if its parts are, as seen from inside the node. -/
theorem around {node : Node} {here : Context} {parts : List Event} {others : List Site}
    (hhere : (tracker.enter schema node).context = here)
    (hleave : (tracker.enter schema node).leave node.kind = tracker)
    (hparts : Covers schema (tracker.enter schema node) parts others) :
    Covers schema tracker (Event.around node parts) (⟨node, here⟩ :: others) := by
  subst hhere
  have hsites := sites_append schema (tracker.enter schema node) parts [.leave node]
  have hrun := run_append schema (tracker.enter schema node) parts [.leave node]
  rw [hparts.sites_eq, hparts.run_eq] at hsites
  rw [hparts.run_eq] at hrun
  -- Entering meets the one site of the node itself and leaving meets none.
  refine ⟨?_, ?_⟩
  · show ⟨node, (tracker.enter schema node).context⟩ ::
        (tracker.enter schema node).sites schema (parts ++ [.leave node]) = _
    rw [hsites]
    simp [Tracker.sites, sitesAt, Event.begins?]
  · show (tracker.enter schema node).run schema (parts ++ [.leave node]) = tracker
    rw [hrun]
    exact hleave

end Covers

theorem Shows.enter {here inside : Context} {node : Node} (h : tracker.Shows here)
    (henum : node.kind ≠ .enumValue)
    (hinside : (tracker.enter schema node).context = inside) :
    (tracker.enter schema node).Shows inside where
  context_eq := hinside
  enumValue_eq := (tracker.enumValue_enter schema _ henum).trans h.enumValue_eq

theorem Settled.enter {here inside : Context} {node : Node} (h : tracker.Settled here)
    (hdirective : node.kind ≠ .directive) (henum : node.kind ≠ .enumValue)
    (hinside : (tracker.enter schema node).context = inside) :
    (tracker.enter schema node).Settled inside where
  toShows := h.toShows.enter henum hinside
  directive_eq := (tracker.directive_enter schema _ hdirective).trans h.directive_eq

/-- Between directives the arguments on offer are those of the field. -/
theorem Settled.arguments?_eq {here : Context} (h : tracker.Settled here) :
    tracker.arguments? = here.field.map (·.arguments) := by
  unfold arguments?
  rw [h.directive_eq, h.context_eq]

/-- In a directive the arguments on offer are its own if the schema has it. -/
theorem arguments?_enter_directive (schema : Schema) (tracker : Tracker)
    (directive : Directive) :
    (tracker.enter schema (.directive directive)).arguments? =
      tracker.context.offeredBy schema directive.name.text := rfl

end

/-! ## Values and directives -/

section

variable (schema : Schema)

mutual
/-- A value is covered wherever no enum value is in force. -/
theorem covers_value {tracker : Tracker} {here : Context} (h : tracker.Shows here)
    (value : Value) : Covers schema tracker value.events (value.descent schema here) := by
  obtain rfl := h.context_eq
  cases value with
  | enum name =>
      -- Leaving forgets the enum value instead of putting an earlier one back, hence `Shows`.
      refine .visit (tracker.context_enter_enumValue schema name) ?_
      exact tracker.leave_enter schema _ (by simp [Node.kind]) (fun _ ↦ h.enumValue_eq)
  | list span items =>
      have hhere := tracker.context_enter_list schema span items
      exact .around hhere rfl (covers_items (h.enter (by simp [Node.kind]) hhere) items)
  | object span fields => exact covers_fields h fields
  | var span name => exact .mention schema tracker name
  | int | float | string | boolean | null => exact .nil

/-- The items of a list are covered one after the other. -/
theorem covers_items {tracker : Tracker} {here : Context} (h : tracker.Shows here)
    (items : List Value) :
    Covers schema tracker (eventsOfItems items) (descentOfItems schema here items) := by
  cases items with
  | nil => exact .nil
  | cons item rest => exact (covers_value h item).append (covers_items h rest)

/-- A field of an object is covered, with a value or without one. -/
theorem covers_objectField {tracker : Tracker} {here : Context} (h : tracker.Shows here)
    (field : ObjectField) :
    Covers schema tracker field.events (field.descent schema here) := by
  obtain rfl := h.context_eq
  obtain ⟨span, name, value⟩ := field
  have hhere := tracker.context_enter_objectField schema ⟨span, name, value⟩
  cases value with
  | none => exact .around hhere rfl .nil
  | some value =>
      exact .around hhere rfl (covers_value (h.enter (by simp [Node.kind]) hhere) value)

/-- The fields of an object are covered one after the other. -/
theorem covers_fields {tracker : Tracker} {here : Context} (h : tracker.Shows here)
    (fields : List ObjectField) :
    Covers schema tracker (eventsOfFields fields) (descentOfFields schema here fields) := by
  cases fields with
  | nil => exact .nil
  | cons field rest => exact (covers_objectField h field).append (covers_fields h rest)
end

variable {tracker : Tracker} {here : Context}

/-- A value that may be missing is covered. -/
theorem covers_optional (h : tracker.Shows here) (value : Option Value) :
    Covers schema tracker (eventsOfOptional value) (descentOfOptional schema here value) := by
  cases value with
  | none => exact .nil
  | some value => exact covers_value schema h value

/-- An argument is covered as one of those on offer. -/
theorem covers_argument (h : tracker.Shows here) {offered : Option (Table InputValueDef)}
    (hoffered : tracker.arguments? = offered) (argument : Argument) :
    Covers schema tracker argument.events (argument.descent schema here offered) := by
  obtain rfl := h.context_eq
  obtain rfl := hoffered
  have hhere := tracker.context_enter_argument schema argument
  have hinside := h.enter (by simp [Node.kind]) hhere
  exact .around hhere rfl (covers_optional schema hinside argument.value)

/-- A directive is covered, known to the schema or not. -/
theorem covers_directive (h : tracker.Settled here) (directive : Directive) :
    Covers schema tracker directive.events (directive.descent schema here) := by
  obtain rfl := h.context_eq
  have hhere := tracker.context_enter_directive schema directive
  -- Inside the directive the tracker is not settled; its arguments need only what it shows.
  have hinside := h.toShows.enter (by simp [Node.kind]) hhere
  have hoffered := arguments?_enter_directive schema tracker directive
  -- No directive stands inside another one, so there is none for leaving to lose.
  have hleave := tracker.leave_enter schema (.directive directive)
    (fun _ ↦ h.directive_eq) (by simp [Node.kind])
  have harguments := Covers.flatMap (covers_argument schema hinside hoffered) directive.arguments
  exact .around hhere hleave harguments

theorem covers_directives (h : tracker.Settled here) (directives : List Directive) :
    Covers schema tracker (directives.flatMap Directive.events)
      (directives.flatMap (Directive.descent schema here)) :=
  .flatMap (covers_directive schema h) directives

/-- A named type is met where it stands. -/
theorem covers_namedType (h : tracker.Shows here) (name : Name) :
    Covers schema tracker [.visit (.namedType name)] [⟨.namedType name, here⟩] :=
  .visit h.context_eq rfl

/-- The named type in a written type is met where the type is. -/
theorem covers_type (h : tracker.Shows here) (type : TypeExpr) :
    Covers schema tracker type.events [⟨.namedType type.name, here⟩] := by
  rw [type.events_eq]
  exact covers_namedType schema h type.name

/-- The named type of a condition is met where the condition is. -/
theorem covers_condition (h : tracker.Shows here) (condition : Option Name) :
    Covers schema tracker (eventsOfCondition condition) (descentOfCondition here condition) := by
  cases condition with
  | none => exact .nil
  | some name => exact covers_namedType schema h name

/-! ## Selections -/

mutual
/-- A field is covered: its arguments and directives see its own definition. -/
theorem covers_field {tracker : Tracker} {here : Context} (h : tracker.Settled here)
    (field : Field) : Covers schema tracker field.events (field.descent schema here) := by
  obtain rfl := h.context_eq
  obtain ⟨span, aliasName, name, arguments, directives, selections⟩ := field
  have hhere := tracker.context_enter_field schema
    ⟨span, aliasName, name, arguments, directives, selections⟩
  have hinside := h.enter (by simp [Node.kind]) (by simp [Node.kind]) hhere
  have harguments := Covers.flatMap (covers_argument schema hinside.toShows
    hinside.arguments?_eq) arguments
  have hparts := harguments.append (covers_directives schema hinside directives)
  cases selections with
  | none => exact .around hhere rfl hparts
  | some selections =>
      exact .around hhere rfl (hparts.append (covers_selectionSet hinside selections))

/-- An inline fragment is covered, with a condition or without one. -/
theorem covers_inlineFragment {tracker : Tracker} {here : Context} (h : tracker.Settled here)
    (fragment : InlineFragment) :
    Covers schema tracker fragment.events (fragment.descent schema here) := by
  obtain rfl := h.context_eq
  obtain ⟨span, condition, directives, selections⟩ := fragment
  have hhere := tracker.context_enter_inlineFragment schema
    ⟨span, condition, directives, selections⟩
  have hinside := h.enter (by simp [Node.kind]) (by simp [Node.kind]) hhere
  have hparts := (covers_condition schema hinside.toShows condition).append
    (covers_directives schema hinside directives)
  exact .around hhere rfl (hparts.append (covers_selectionSet hinside selections))

/-- A selection set is covered. -/
theorem covers_selectionSet {tracker : Tracker} {here : Context} (h : tracker.Settled here)
    (set : SelectionSet) : Covers schema tracker set.events (set.descent schema here) := by
  obtain rfl := h.context_eq
  obtain ⟨span, items⟩ := set
  have hhere := tracker.context_enter_selectionSet schema ⟨span, items⟩
  have hinside := h.enter (by simp [Node.kind]) (by simp [Node.kind]) hhere
  exact .around hhere rfl (covers_selections hinside items)

/-- A selection is covered, whichever it is. -/
theorem covers_selection {tracker : Tracker} {here : Context} (h : tracker.Settled here)
    (selection : Selection) :
    Covers schema tracker selection.events (selection.descent schema here) := by
  cases selection with
  | field it => exact covers_field h it
  | inline it => exact covers_inlineFragment h it
  | spread span name directives =>
      have hspread : Covers schema tracker [.visit (.spread span name)]
          [⟨.spread span name, here⟩] := .visit h.context_eq rfl
      exact hspread.append (covers_directives schema h directives)

/-- The selections of a set are covered one after the other. -/
theorem covers_selections {tracker : Tracker} {here : Context} (h : tracker.Settled here)
    (items : List Selection) :
    Covers schema tracker (eventsOfSelections items)
      (descentOfSelections schema here items) := by
  cases items with
  | nil => exact .nil
  | cons selection rest => exact (covers_selection h selection).append (covers_selections h rest)
end

/-! ## Definitions -/

/-- The declaration of a variable is covered. -/
theorem covers_variableDefinition (h : tracker.Settled here) (definition : VariableDefinition) :
    Covers schema tracker definition.events (definition.descent schema here) := by
  obtain rfl := h.context_eq
  have hhere := tracker.context_enter_variableDefinition schema definition
  have hinside := h.enter (by simp [Node.kind]) (by simp [Node.kind]) hhere
  have hhead := (Covers.mention schema _ definition.name).append
    (covers_type schema hinside.toShows definition.type)
  have hparts := (covers_optional schema hinside.toShows definition.default).append
    (covers_directives schema hinside definition.directives)
  exact .around hhere rfl (hhead.append hparts)

/-- An operation is covered. -/
theorem covers_operation (h : tracker.Settled here) (operation : Operation) :
    Covers schema tracker operation.events (operation.descent schema here) := by
  obtain rfl := h.context_eq
  have hhere := tracker.context_enter_operation schema operation
  have hinside := h.enter (by simp [Node.kind]) (by simp [Node.kind]) hhere
  have hvariables := Covers.flatMap (covers_variableDefinition schema hinside)
    operation.variableDefinitions
  have hparts := hvariables.append (covers_directives schema hinside operation.directives)
  exact .around hhere rfl (hparts.append (covers_selectionSet schema hinside operation.selections))

/-- A fragment is covered. -/
theorem covers_fragment (h : tracker.Settled here) (fragment : Fragment) :
    Covers schema tracker fragment.events (fragment.descent schema here) := by
  obtain rfl := h.context_eq
  have hhere := tracker.context_enter_fragment schema fragment
  have hinside := h.enter (by simp [Node.kind]) (by simp [Node.kind]) hhere
  have hcondition := covers_namedType schema hinside.toShows fragment.condition
  have hparts := (covers_directives schema hinside fragment.directives).append
    (covers_selectionSet schema hinside fragment.selections)
  exact .around hhere rfl (hcondition.append hparts)

/-- A definition is covered; a type system definition meets nothing. -/
theorem covers_definition (h : tracker.Settled here) (definition : Definition) :
    Covers schema tracker definition.events (definition.descent schema here) := by
  cases definition with
  | operation it => exact covers_operation schema h it
  | fragment it => exact covers_fragment schema h it
  | schema | directive | type | extendSchema | extendType => exact .nil

end

/-- Before anything is entered a tracker is settled outside all definitions. -/
theorem settled_start : start.Settled .outside := ⟨⟨rfl, rfl⟩, rfl⟩

/-- A document is covered, and after it the tracker is as it was before. -/
theorem covers_document (schema : Schema) (document : Document) :
    Covers schema start document.events (document.descent schema) := by
  have hdefinitions := Covers.flatMap (covers_definition schema settled_start)
    document.definitions
  exact .around (start.context_enter_document schema document) rfl hdefinitions

/-- The sites of a walk are at the nodes that begin in it, in order. -/
theorem map_node_sites (schema : Schema) (tracker : Tracker) (events : List Event) :
    (tracker.sites schema events).map Site.node = events.filterMap Event.begins? := by
  induction events generalizing tracker with
  | nil => rfl
  | cons event rest ih =>
      rw [sites, List.map_append, ih (tracker.step schema event)]
      cases event <;> rfl

/-- What stands at a site of a walk is what some tracker shows inside the node. -/
theorem exists_enter_of_mem_sites {schema : Schema} {tracker : Tracker} {events : List Event}
    {site : Site} (h : site ∈ tracker.sites schema events) :
    ∃ before : Tracker, site.context = (before.enter schema site.node).context := by
  induction events generalizing tracker with
  | nil => exact absurd h List.not_mem_nil
  | cons event rest ih =>
      rw [sites] at h
      rcases List.mem_append.mp h with here | later
      · obtain ⟨node, -, rfl⟩ := List.mem_map.mp here
        exact ⟨tracker, rfl⟩
      · exact ih later

end Tracker

/-- A node that begins in the walk of a document has a site. -/
theorem Language.Document.exists_site_of_begins? (schema : Schema) {document : Document}
    {event : Event} {node : Node} (hevent : event ∈ document.events)
    (hnode : event.begins? = some node) : ∃ site ∈ document.sites schema, site.node = node := by
  refine List.mem_map.mp ?_
  rw [sites, Tracker.start.map_node_sites schema document.events]
  exact List.mem_filterMap.mpr ⟨event, hevent, hnode⟩

/-- At every node of a walk the tracker shows the context that is handed down to the node, and the
nodes are those that begin in the walk. -/
theorem Language.Document.sites_eq_descent (schema : Schema) (document : Document) :
    document.sites schema = document.descent schema ∧
      (document.descent schema).map Site.node = document.events.filterMap Event.begins? := by
  have hsites := (Tracker.covers_document schema document).sites_eq
  have hnodes := Tracker.start.map_node_sites schema document.events
  rw [hsites] at hnodes
  exact ⟨hsites, hnodes⟩

/-! ## What the parts of a context have to do with each other -/

/-- The parts of the context of a site that come from the node belong together: the field to the
type it is selected on, the type to the field or the condition, the enum value to what it is given
for. -/
structure Site.Linked (schema : Schema) (site : Site) : Prop where
  conditionType (fragment : Fragment) (h : site.node = .fragment fragment) :
    site.context.type = schema.yields (.named fragment.condition.text)
  field (field : Field) (h : site.node = .field field) :
    site.context.field = site.context.parent.bind (·.selectable? field.name.text)
  fieldType (field : Field) (h : site.node = .field field) :
    site.context.type = site.context.field.bind (schema.yields ·.type)
  enumValue (name : Name) (h : site.node = .enumValue name) :
    site.context.enumValue = site.context.input.bind (·.namedType.enumValue? name.text)

/-- Every site of a document is linked, since entering a node brings its parts in together. -/
theorem Site.linked_of_mem {schema : Schema} {document : Document} {site : Site}
    (h : site ∈ document.sites schema) : site.Linked schema := by
  obtain ⟨before, hcontext⟩ := Tracker.exists_enter_of_mem_sites h
  refine ⟨?_, ?_, ?_, ?_⟩
  · intro fragment hnode
    rw [hcontext, hnode, Tracker.context_enter_fragment]
    rfl
  · intro field hnode
    rw [hcontext, hnode, Tracker.context_enter_field]
    rfl
  · intro field hnode
    rw [hcontext, hnode, Tracker.context_enter_field]
    rfl
  · intro name hnode
    rw [hcontext, hnode, Tracker.context_enter_enumValue]
    rfl

end QueryLint
