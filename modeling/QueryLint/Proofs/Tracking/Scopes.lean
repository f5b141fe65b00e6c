import QueryLint.Proofs.Schema.Resolution
import QueryLint.Proofs.Tracking.Agreement
import QueryLint.Proofs.Walk.Heads

/-!
# Scopes

A `Scope` is all that is handed down to a construct. Main statements: `Construct.descent_eq` and
`Scope.Alike.into`. The descent of any construct is its own site, if it has one, and then the
descents of its parts, each with what the construct hands down. So what goes for sites can be proved
for constructs of all kinds at once, from part to part. Scopes that no look-up tells apart are
handed on as scopes that no look-up tells apart.
-/

namespace QueryLint

open QueryLint.Language

/-- What is handed down to a construct: what is in force around it, and the arguments on offer. -/
structure Scope where
  context : Context
  offered : Option (Table InputValueDef)

namespace Scope

/-- What is handed down to a definition. -/
def outside : Scope := ⟨.outside, none⟩

/-- What a construct hands down to its parts. It is also what is in force at its own site. -/
def into (schema : Schema) (scope : Scope) : Construct → Scope
  | .definition (.operation it) =>
    { scope with context := scope.context.inOperation schema it.kind }
  | .definition (.fragment it) =>
    { scope with context := scope.context.underCondition schema it.condition.text }
  | .variableDefinition it => { scope with context := scope.context.inVariable schema it.type }
  | .value (.list _ _) => { scope with context := scope.context.inList }
  | .value (.enum name) => { scope with context := scope.context.atEnumValue name.text }
  | .objectField it => { scope with context := scope.context.inObjectField schema it.name.text }
  | .argument it =>
    { scope with context := scope.context.inArgument schema scope.offered it.name.text }
  | .directive it => { scope with offered := scope.context.offeredBy schema it.name.text }
  | .selectionSet _ => { scope with context := scope.context.inSelections }
  | .selection (.field it) =>
    let inside := scope.context.inField schema it.name.text
    ⟨inside, inside.field.map (·.arguments)⟩
  | .selection (.inline it) => { scope with context := scope.context.inInline schema it.condition }
  | _ => scope

end Scope

namespace Language

/-! ## Lists of parts -/

theorem descentOfItems_eq_flatMap (schema : Schema) (here : Context) (items : List Value) :
    descentOfItems schema here items = items.flatMap (Value.descent schema here) := by
  induction items with
  | nil => rfl
  | cons item rest ih => rw [descentOfItems, ih, List.flatMap_cons]

theorem descentOfFields_eq_flatMap (schema : Schema) (here : Context) (fields : List ObjectField) :
    descentOfFields schema here fields = fields.flatMap (ObjectField.descent schema here) := by
  induction fields with
  | nil => rfl
  | cons field rest ih => rw [descentOfFields, ih, List.flatMap_cons]

theorem descentOfSelections_eq_flatMap (schema : Schema) (here : Context)
    (items : List Selection) :
    descentOfSelections schema here items = items.flatMap (Selection.descent schema here) := by
  induction items with
  | nil => rfl
  | cons item rest ih => rw [descentOfSelections, ih, List.flatMap_cons]

theorem descentOfOptional_eq_flatMap (schema : Schema) (here : Context) (value : Option Value) :
    descentOfOptional schema here value = value.toList.flatMap (Value.descent schema here) := by
  cases value <;> simp [descentOfOptional]

theorem descentOfCondition_eq_flatMap (here : Context) (condition : Option Name) :
    descentOfCondition here condition =
      condition.toList.flatMap fun name ↦ [⟨.namedType name, here⟩] := by
  cases condition <;> rfl

namespace Construct

variable (schema : Schema) (scope : Scope) (here : Construct)

/-- The site of a construct, if it is a node. -/
def site? : Option Site :=
  (here.event?.bind Event.begins?).map fun node ↦ ⟨node, (scope.into schema here).context⟩

/-- Whether a walk goes to the parts of the construct. It passes over the type system. -/
def isWalked : Construct → Bool
  | definition it => it.isExecutable
  | rootDefinition _ | fieldDefinition _ | inputValueDefinition _ | enumValueDefinition _ => false
  | _ => true

/-- The parts of a construct that a walk goes to. -/
def walkedParts : List Construct := if here.isWalked then here.parts else []

/-- The sites of a construct. -/
def descent : Construct → List Site
  | definition it => it.descent schema scope.context
  | variableDefinition it => it.descent schema scope.context
  | type it => [⟨.namedType it.name, scope.context⟩]
  | namedType name => [⟨.namedType name, scope.context⟩]
  | value it => it.descent schema scope.context
  | objectField it => it.descent schema scope.context
  | argument it => it.descent schema scope.context scope.offered
  | directive it => it.descent schema scope.context
  | selectionSet it => it.descent schema scope.context
  | selection it => it.descent schema scope.context
  | declared _ => []
  | rootDefinition _ | fieldDefinition _ | inputValueDefinition _ | enumValueDefinition _ => []

/-- The site of a construct comes first, and then those of its parts in order. -/
theorem descent_eq :
    here.descent schema scope = (here.site? schema scope).toList ++
      here.walkedParts.flatMap (descent schema (scope.into schema here)) := by
  cases here with
  | definition it =>
      cases it with
      | operation it =>
          simp [descent, Definition.descent, Operation.descent, site?, event?, Event.begins?,
            walkedParts, isWalked, Definition.isExecutable, parts, Scope.into, List.flatMap_map]
      | fragment it =>
          simp [descent, Definition.descent, Fragment.descent, site?, event?, Event.begins?,
            walkedParts, isWalked, Definition.isExecutable, parts, Scope.into, List.flatMap_map]
      | schema | directive | type | extendSchema | extendType => rfl
  | variableDefinition it =>
      simp [descent, VariableDefinition.descent, descentOfOptional_eq_flatMap, site?, event?,
        Event.begins?, walkedParts, isWalked, parts, Scope.into, List.flatMap_map]
  | type it => cases it <;> rfl
  | value it =>
      cases it with
      | list span items =>
          simp [descent, Value.descent, descentOfItems_eq_flatMap, site?, event?, Event.begins?,
            walkedParts, isWalked, parts, Scope.into, List.flatMap_map]
      | object span fields =>
          simp [descent, Value.descent, descentOfFields_eq_flatMap, site?, event?,
            walkedParts, isWalked, parts, Scope.into, List.flatMap_map]
      | _ => rfl
  | objectField it =>
      obtain ⟨span, name, value⟩ := it
      cases value <;> simp [descent, ObjectField.descent, site?, event?, Event.begins?,
        walkedParts, isWalked, parts, Scope.into]
  | argument it =>
      simp [descent, Argument.descent, descentOfOptional_eq_flatMap, site?, event?, Event.begins?,
        walkedParts, isWalked, parts, Scope.into, List.flatMap_map]
  | directive it =>
      simp [descent, Directive.descent, site?, event?, Event.begins?, walkedParts, isWalked, parts,
        Scope.into, List.flatMap_map]
  | selectionSet it =>
      obtain ⟨span, items⟩ := it
      simp [descent, SelectionSet.descent, descentOfSelections_eq_flatMap, site?, event?,
        Event.begins?, walkedParts, isWalked, parts, Scope.into, List.flatMap_map]
  | selection it =>
      cases it with
      | field it =>
          obtain ⟨span, aliasName, name, arguments, directives, selections⟩ := it
          cases selections <;> simp [descent, Selection.descent, Field.descent, site?, event?,
            Event.begins?, walkedParts, isWalked, parts, Scope.into, List.flatMap_map]
      | inline it =>
          obtain ⟨span, condition, directives, selections⟩ := it
          simp [descent, Selection.descent, InlineFragment.descent, descentOfCondition_eq_flatMap,
            site?, event?, Event.begins?, walkedParts, isWalked, parts, Scope.into,
            List.flatMap_map]
      | spread span name directives =>
          simp [descent, Selection.descent, site?, event?, Event.begins?, walkedParts, isWalked,
            parts, Scope.into, List.flatMap_map]
  | declared | namedType => rfl
  | rootDefinition | fieldDefinition | inputValueDefinition | enumValueDefinition => rfl

end Construct

end Language

/-! ## Scopes that look-ups cannot tell apart -/

theorem ResolvedType.namedType_item (type : ResolvedType) :
    type.item.namedType = type.namedType := by
  rw [← itemType_eq_item, namedType_itemType]

/-- An inline fragment without a condition takes the layers off the type in force. -/
theorem Context.map_namedType_inInline_none (schema : Schema) (here : Context) :
    (here.inInline schema none).type.map ResolvedType.namedType =
      here.type.map ResolvedType.namedType := by
  simp only [inInline, Option.map_map, Function.comp_def, ResolvedType.namedType]

@[simp] theorem TypeRef.ofExpr_unplaced (type : TypeExpr) : ofExpr type.unplaced = ofExpr type := by
  induction type with
  | named name required => rfl
  | list item required ih => simp [TypeExpr.unplaced, ofExpr, ih]

namespace Scope

/-- What is handed down depends on what a construct says itself only. -/
theorem into_head (schema : Schema) (scope : Scope) (here : Construct) :
    scope.into schema here.head = scope.into schema here := by
  cases here with
  | definition it => cases it <;> rfl
  | variableDefinition it => simp [into, Construct.head, Context.inVariable]
  | value it => cases it <;> rfl
  | selection it =>
      cases it with
      | inline it =>
          obtain ⟨span, condition, directives, selections⟩ := it
          cases condition <;> rfl
      | _ => rfl
  | _ => rfl

/-- Two scopes that no look-up tells apart. Types may differ in list and non-null layers. -/
structure Alike (scope other : Scope) : Prop where
  type : scope.context.type.map ResolvedType.namedType =
    other.context.type.map ResolvedType.namedType
  parent : scope.context.parent = other.context.parent
  field : scope.context.field = other.context.field
  input : scope.context.input.map ResolvedType.namedType =
    other.context.input.map ResolvedType.namedType
  offered : scope.offered = other.offered

namespace Alike

variable {scope other third : Scope}

theorem refl (scope : Scope) : scope.Alike scope := ⟨rfl, rfl, rfl, rfl, rfl⟩

theorem symm (h : scope.Alike other) : other.Alike scope :=
  ⟨h.type.symm, h.parent.symm, h.field.symm, h.input.symm, h.offered.symm⟩

theorem trans (h : scope.Alike other) (hnext : other.Alike third) : scope.Alike third :=
  ⟨h.type.trans hnext.type, h.parent.trans hnext.parent, h.field.trans hnext.field,
    h.input.trans hnext.input, h.offered.trans hnext.offered⟩

/-- What is looked up in the input type in force is looked up below its layers. -/
theorem bind_input {α : Type} (h : scope.Alike other) (find : TypeDef → Option α) :
    scope.context.input.bind (find ·.namedType) = other.context.input.bind (find ·.namedType) := by
  have hbind := congrArg (Option.bind · find) h.input
  simpa only [Option.bind_map, Function.comp_def] using hbind

/-- A list value changes nothing for look-ups. -/
theorem into_list (schema : Schema) (scope : Scope) (span : Span) (items : List Value) :
    scope.Alike (scope.into schema (.value (.list span items))) := by
  refine { refl scope with input := ?_ }
  simp only [Scope.into, Context.inList, Option.map_map, Function.comp_def,
    ResolvedType.namedType_item]

/-- Where no look-up tells two scopes apart, a construct hands down such scopes again. -/
theorem into (h : scope.Alike other) (schema : Schema) (here : Construct) :
    (scope.into schema here).Alike (other.into schema here) := by
  cases here with
  | definition it =>
      cases it with
      | operation it => exact { h with type := rfl }
      | fragment it => exact { h with type := rfl }
      | _ => exact h
  | variableDefinition it => exact { h with input := rfl }
  | value it =>
      cases it with
      | list span items =>
          exact (into_list schema scope span items).symm.trans
            (h.trans (into_list schema other span items))
      | _ => exact { h with }
  | objectField it =>
      refine { h with input := ?_ }
      have hfield := h.bind_input (·.inputField? it.name.text)
      simp only [Scope.into, Context.inObjectField, hfield]
  | argument it =>
      refine { h with input := ?_ }
      simp only [Scope.into, Context.inArgument, h.offered]
  | directive it =>
      refine { h with offered := ?_ }
      simp only [Scope.into, Context.offeredBy, h.field]
  | selectionSet it =>
      refine { h with parent := ?_ }
      simp only [Scope.into, Context.inSelections, h.type]
  | selection it =>
      cases it with
      | field it =>
          refine { h with type := ?_, field := ?_, offered := ?_ }
          all_goals simp only [Scope.into, Context.inField, h.parent]
      | inline it =>
          obtain ⟨span, condition, directives, selections⟩ := it
          cases condition with
          | none =>
              refine { h with type := ?_ }
              show (scope.context.inInline schema none).type.map _ =
                (other.context.inInline schema none).type.map _
              rw [Context.map_namedType_inInline_none, Context.map_namedType_inInline_none]
              exact h.type
          | some name => exact { h with type := rfl }
      | spread span name directives => exact h
  | _ => exact h

/-- Constructs that say the same hand down the same. -/
theorem into_of_head_eq (h : scope.Alike other) (schema : Schema) {here there : Construct}
    (hhead : here.head = there.head) :
    (scope.into schema here).Alike (other.into schema there) := by
  rw [← other.into_head, ← hhead, other.into_head]
  exact h.into schema here

end Alike

end Scope

end QueryLint
