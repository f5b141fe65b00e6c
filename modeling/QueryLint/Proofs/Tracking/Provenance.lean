import QueryLint.Proofs.Schema.Resolution
import QueryLint.Proofs.Tracking.Calls

/-!
# What a tracker holds comes from the schema

Main statement: `Tracker.fromSchema_after`. Whatever calls a tracker gets, in whatever order, all
that it holds belongs to the schema and is of a kind that fits its place.

`Tracker.FromSchema` is kept by entering a node (`FromSchema.opened`) and by leaving one of any kind
(`FromSchema.leave`), entered or not. What is pushed comes from a look-up, or from what is in force,
which is an entry of a stack.
-/

namespace QueryLint

open QueryLint.Language

namespace Schema

variable (schema : Schema)

/-- The type is one of the schema. -/
def Has (type : TypeDef) : Prop := ∃ name, schema.type? name = some type

/-- Below its layers the type is one of the schema, and no input object. -/
def HasOutput (type : ResolvedType) : Prop :=
  schema.Has type.namedType ∧ type.namedType.kind ≠ .inputObject

/-- The type is an object, an interface or a union of the schema. -/
def HasComposite (type : TypeDef) : Prop :=
  schema.Has type ∧ type.kind ∈ [TypeKind.object, .interface, .union]

/-- Below its layers the type is a scalar, an enum or an input object of the schema. -/
def HasInput (type : ResolvedType) : Prop :=
  schema.Has type.namedType ∧ type.namedType.kind ∈ [TypeKind.scalar, .enum, .inputObject]

/-- The field is that of every composite type, or one of an object or an interface of the schema. -/
def HasField (field : FieldDef) : Prop :=
  field = TypeDef.typenameDef ∨
    ∃ owner name, schema.Has owner ∧ owner.kind ∈ [TypeKind.object, .interface] ∧
      owner.fields.get? name = some field

/-- The directive is one of the schema. -/
def HasDirective (directive : DirectiveDef) : Prop :=
  ∃ name, schema.directive? name = some directive

/-- The value is one of an enum of the schema. -/
def HasEnumValue (value : EnumValueDef) : Prop :=
  ∃ owner name, schema.Has owner ∧ owner.kind = .enum ∧ owner.enumValues.get? name = some value

end Schema

/-- All entries of the stack that are there have the property. -/
def AllPresent {α : Type} (p : α → Prop) (stack : List (Option α)) : Prop :=
  ∀ a, some a ∈ stack → p a

/-- All that the tracker holds belongs to the schema and is of a kind that fits its place. -/
structure Tracker.FromSchema (schema : Schema) (tracker : Tracker) : Prop where
  types : AllPresent schema.HasOutput tracker.types
  parents : AllPresent schema.HasComposite tracker.parents
  fields : AllPresent schema.HasField tracker.fields
  inputs : AllPresent schema.HasInput tracker.inputs
  directive : ∀ directive, tracker.directive = some directive → schema.HasDirective directive
  enumValue : ∀ value, tracker.enumValue = some value → schema.HasEnumValue value

/-! ## Stacks -/

namespace AllPresent

variable {α : Type} {p : α → Prop} {stack : List (Option α)}

theorem nil : AllPresent p [] := fun _ h ↦ absurd h List.not_mem_nil

theorem push (h : AllPresent p stack) {top : Option α} (htop : ∀ a, top = some a → p a) :
    AllPresent p (top :: stack) := by
  intro a ha
  rcases List.mem_cons.mp ha with hfirst | hlater
  · exact htop a hfirst.symm
  · exact h a hlater

theorem tail (h : AllPresent p stack) : AllPresent p stack.tail :=
  fun a ha ↦ h a (List.mem_of_mem_tail ha)

/-- What is in force is an entry. -/
theorem head (h : AllPresent p stack) {a : α} (ha : stack.head?.join = some a) : p a := by
  cases stack with
  | nil => cases ha
  | cons top rest => exact h a (by simpa using Or.inl ha.symm)

end AllPresent

/-! ## Look-ups -/

theorem TypeKind.ne_inputObject_of_isOutput {kind : TypeKind} (h : kind.isOutput = true) :
    kind ≠ .inputObject := by
  rintro rfl
  cases h

namespace Schema

variable {schema : Schema}

/-- Below its layers a reference resolves to a type of the schema. -/
theorem has_namedType_of_resolve? {type : TypeRef} {found : ResolvedType}
    (h : schema.resolve? type = some found) : schema.Has found.namedType := by
  refine ⟨type.name, ?_⟩
  rw [← map_namedType_resolve?, h]
  rfl

theorem hasOutput_of_operationType? {kind : OperationKind} {type : ResolvedType}
    (h : schema.operationType? kind = some type) : schema.HasOutput type := by
  obtain ⟨root, hroot, rfl⟩ := Option.map_eq_some_iff.mp h
  obtain ⟨hroot, hkind⟩ := Option.filter_eq_some_iff.mp hroot
  obtain ⟨name, -, htype⟩ := Option.bind_eq_some_iff.mp hroot
  refine ⟨⟨name, htype⟩, ?_⟩
  rw [ResolvedType.namedType, beq_iff_eq.mp hkind]
  decide

theorem hasOutput_of_conditionType? {name : String} {type : ResolvedType}
    (h : schema.conditionType? name = some type) : schema.HasOutput type := by
  obtain ⟨found, hfound, rfl⟩ := Option.map_eq_some_iff.mp h
  obtain ⟨hfound, hkind⟩ := Option.filter_eq_some_iff.mp hfound
  exact ⟨⟨name, hfound⟩, TypeKind.ne_inputObject_of_isOutput hkind⟩

theorem hasOutput_of_outputType? {type : TypeRef} {found : ResolvedType}
    (h : schema.outputType? type = some found) : schema.HasOutput found := by
  obtain ⟨hfound, hkind⟩ := Option.filter_eq_some_iff.mp h
  exact ⟨has_namedType_of_resolve? hfound, TypeKind.ne_inputObject_of_isOutput hkind⟩

theorem hasInput_of_inputType? {type : TypeRef} {found : ResolvedType}
    (h : schema.inputType? type = some found) : schema.HasInput found := by
  obtain ⟨hfound, hkind⟩ := Option.filter_eq_some_iff.mp h
  refine ⟨has_namedType_of_resolve? hfound, ?_⟩
  revert hkind
  cases found.namedType.kind <;> decide

/-- A list is given for items of the same innermost type. -/
theorem HasInput.itemType {type : ResolvedType} (h : schema.HasInput type) :
    schema.HasInput type.itemType := by
  unfold HasInput
  rw [type.namedType_itemType]
  exact h

theorem HasOutput.of_parentType? {type : ResolvedType} {parent : TypeDef}
    (htype : schema.HasOutput type) (h : type.parentType? = some parent) :
    schema.HasComposite parent := by
  unfold ResolvedType.parentType? at h
  split at h
  · next hkind =>
      cases h
      refine ⟨htype.1, ?_⟩
      revert hkind
      cases type.namedType.kind <;> decide
  · cases h

theorem HasComposite.of_selectable? {parent : TypeDef} {name : String} {field : FieldDef}
    (hparent : schema.HasComposite parent) (h : parent.selectable? name = some field) :
    schema.HasField field := by
  unfold TypeDef.selectable? at h
  split at h
  · cases h
    exact .inl rfl
  · obtain ⟨fields, hfields, hfield⟩ := Option.bind_eq_some_iff.mp h
    unfold TypeDef.fieldMap at hfields
    split at hfields
    · next hkind =>
        cases hfields
        refine .inr ⟨parent, name, hparent.1, ?_, hfield⟩
        revert hkind
        cases parent.kind <;> decide
    · cases hfields

theorem HasInput.of_enumValue? {type : ResolvedType} {name : String} {value : EnumValueDef}
    (htype : schema.HasInput type) (h : type.namedType.enumValue? name = some value) :
    schema.HasEnumValue value := by
  unfold TypeDef.enumValue? at h
  split at h
  · next hkind => exact ⟨type.namedType, name, htype.1, hkind, h⟩
  · cases h

end Schema

/-! ## Calls -/

namespace Tracker

theorem fromSchema_start (schema : Schema) : start.FromSchema schema where
  types := .nil
  parents := .nil
  fields := .nil
  inputs := .nil
  directive := fun _ h ↦ by cases h
  enumValue := fun _ h ↦ by cases h

namespace FromSchema

variable {schema : Schema} {tracker : Tracker}

/-- What is declared for an input is an input type of the schema, wherever it is declared. -/
theorem pushInput (h : tracker.FromSchema schema) (declared : Option InputValueDef) :
    (tracker.pushInput (declared.bind (schema.inputType? ·.type))).FromSchema schema := by
  refine { h with inputs := h.inputs.push fun type htype ↦ ?_ }
  obtain ⟨value, -, hvalue⟩ := Option.bind_eq_some_iff.mp htype
  exact Schema.hasInput_of_inputType? hvalue

/-- A node that begins brings in what belongs to the schema. -/
theorem opened (h : tracker.FromSchema schema) (opening : Opening) :
    (tracker.opened schema opening).FromSchema schema := by
  cases opening with
  | operation kind =>
      exact { h with types := h.types.push fun _ ↦ Schema.hasOutput_of_operationType? }
  | fragment condition =>
      refine { h with types := h.types.push fun type htype ↦ ?_ }
      obtain ⟨name, -, hname⟩ := Option.bind_eq_some_iff.mp htype
      exact Schema.hasOutput_of_conditionType? hname
  | inlineFragment condition =>
      refine { h with types := h.types.push fun type htype ↦ ?_ }
      cases condition with
      | some name =>
          obtain ⟨name, -, hname⟩ := Option.bind_eq_some_iff.mp htype
          exact Schema.hasOutput_of_conditionType? hname
      | none =>
          -- The type in force goes on without its layers.
          obtain ⟨outer, houter, rfl⟩ := Option.map_eq_some_iff.mp htype
          have hhere : schema.HasOutput outer := h.types.head houter
          exact hhere
  | selectionSet =>
      refine { h with parents := h.parents.push fun parent hparent ↦ ?_ }
      obtain ⟨type, htype, hparent⟩ := Option.bind_eq_some_iff.mp hparent
      exact (h.types.head htype).of_parentType? hparent
  | field name =>
      refine { h with types := h.types.push fun type htype ↦ ?_,
                      fields := h.fields.push fun field hfield ↦ ?_ }
      · obtain ⟨field, -, htype⟩ := Option.bind_eq_some_iff.mp htype
        exact Schema.hasOutput_of_outputType? htype
      · obtain ⟨name, -, hfield⟩ := Option.bind_eq_some_iff.mp hfield
        obtain ⟨parent, hparent, hfield⟩ := Option.bind_eq_some_iff.mp hfield
        exact (h.parents.head hparent).of_selectable? hfield
  | directive name =>
      refine { h with directive := fun directive hdirective ↦ ?_ }
      obtain ⟨name, -, hname⟩ := Option.bind_eq_some_iff.mp hdirective
      exact ⟨name, hname⟩
  | variableDefinition type =>
      refine { h with inputs := h.inputs.push fun found hfound ↦ ?_ }
      obtain ⟨type, -, htype⟩ := Option.bind_eq_some_iff.mp hfound
      exact Schema.hasInput_of_inputType? htype
  | argument name => exact h.pushInput _
  | list =>
      refine { h with inputs := h.inputs.push fun type htype ↦ ?_ }
      obtain ⟨outer, houter, rfl⟩ := Option.map_eq_some_iff.mp htype
      exact (h.inputs.head houter).itemType
  | objectField name => exact h.pushInput _
  | enumValue name =>
      refine { h with enumValue := fun value hvalue ↦ ?_ }
      obtain ⟨name, -, hvalue⟩ := Option.bind_eq_some_iff.mp hvalue
      obtain ⟨type, htype, hvalue⟩ := Option.bind_eq_some_iff.mp hvalue
      exact (h.inputs.head htype).of_enumValue? hvalue

/-- A node that ends only uncovers what was there before. -/
theorem leave (h : tracker.FromSchema schema) (kind : NodeKind) :
    (tracker.leave kind).FromSchema schema := by
  cases kind with
  | operation | fragment | inlineFragment => exact { h with types := h.types.tail }
  | selectionSet => exact { h with parents := h.parents.tail }
  | field => exact { h with fields := h.fields.tail, types := h.types.tail }
  | directive => exact { h with directive := fun _ hnone ↦ by cases hnone }
  | variableDefinition | argument | list | objectField =>
      exact { h with inputs := h.inputs.tail }
  | enumValue => exact { h with enumValue := fun _ hnone ↦ by cases hnone }
  | document | spread | namedType => exact h

theorem call (h : tracker.FromSchema schema) (call : Call) :
    (tracker.call schema call).FromSchema schema := by
  cases call with
  | enter opening => exact h.opened opening
  | leave kind => exact h.leave kind

theorem after (h : tracker.FromSchema schema) (calls : List Call) :
    (tracker.after schema calls).FromSchema schema := by
  induction calls generalizing tracker with
  | nil => exact h
  | cons call rest ih => exact ih (h.call call)

end FromSchema

/-- After any calls, balanced or not, all that a tracker holds belongs to the schema and is of a
kind that fits its place. -/
theorem fromSchema_after (schema : Schema) (calls : List Call) :
    (start.after schema calls).FromSchema schema :=
  (fromSchema_start schema).after calls

end Tracker

end QueryLint
