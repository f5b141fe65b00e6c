import QueryLint.Proofs.Schema.Inclusion

/-!
# Schemas without list and non-null layers

`Schema.unwrapped` takes the list and non-null layers off every type reference of a schema and
leaves all else as it is. Main statement: `Schema.within_of_unwrapped_eq`. Of two schemas that are
the same without these layers, each is within the other.
-/

namespace QueryLint

/-! ## Tables with other values -/

/-- Values that become the same are related, if all that do are. -/
theorem option_rel_of_map_eq {α β : Type} {f : α → β} {r : α → α → Prop} {left right : Option α}
    (h : left.map f = right.map f) (hr : ∀ value other, f value = f other → r value other) :
    Option.Rel r left right := by
  cases left with
  | none =>
      rw [Option.map_none, eq_comm, Option.map_eq_none_iff] at h
      rw [h]
      exact .none
  | some value =>
      rw [Option.map_some, eq_comm, Option.map_eq_some_iff] at h
      obtain ⟨other, rfl, hsame⟩ := h
      exact .some (hr value other hsame.symm)

namespace Table

variable {α β : Type}

/-- Tables that become the same have related values under the same names if values that become the
same are related. -/
theorem rel_of_map_eq {f : α → β} {r : α → α → Prop} {small large : Table α}
    (h : small.map f = large.map f) (hr : ∀ value other, f value = f other → r value other)
    (name : String) : Option.Rel r (small.get? name) (large.get? name) := by
  refine option_rel_of_map_eq ?_ hr
  rw [← get?_map, ← get?_map, h]

theorem within_of_map_eq {f : α → β} {r : α → α → Prop} {small large : Table α}
    (h : small.map f = large.map f) (hr : ∀ value other, f value = f other → r value other) :
    small.Within r large :=
  fun name ↦ .of_rel (rel_of_map_eq h hr name)

end Table

/-! ## Taking off the layers -/

/-- The reference to the innermost name. -/
def TypeRef.unwrapped (type : TypeRef) : TypeRef := .named type.name

@[inherit_doc TypeRef.unwrapped] def InputValueDef.unwrapped (value : InputValueDef) :
    InputValueDef :=
  { value with type := value.type.unwrapped }

/-- The field with references to innermost names. -/
def FieldDef.unwrapped (field : FieldDef) : FieldDef :=
  { field with
    type := field.type.unwrapped
    arguments := field.arguments.map InputValueDef.unwrapped }

/-- The type with references to innermost names. -/
def TypeDef.unwrapped (type : TypeDef) : TypeDef :=
  { type with
    fields := type.fields.map FieldDef.unwrapped
    inputFields := type.inputFields.map InputValueDef.unwrapped }

/-- The directive with references to innermost names. -/
def DirectiveDef.unwrapped (directive : DirectiveDef) : DirectiveDef :=
  { directive with arguments := directive.arguments.map InputValueDef.unwrapped }

/-- The schema with references to innermost names. -/
def Schema.unwrapped (schema : Schema) : Schema :=
  { schema with
    types := schema.types.map TypeDef.unwrapped
    directives := schema.directives.map DirectiveDef.unwrapped }

/-! ## What stays -/

theorem InputValueDef.alike_of_unwrapped_eq (value other : InputValueDef)
    (h : value.unwrapped = other.unwrapped) : value.Alike other :=
  (TypeRef.named.inj (congrArg InputValueDef.type h)).symm

theorem FieldDef.within_of_unwrapped_eq (field other : FieldDef)
    (h : field.unwrapped = other.unwrapped) : field.Within other where
  name := (congrArg FieldDef.name h).symm
  type := (TypeRef.named.inj (congrArg FieldDef.type h)).symm
  arguments :=
    Table.within_of_map_eq (congrArg FieldDef.arguments h) InputValueDef.alike_of_unwrapped_eq
  deprecation := (congrArg FieldDef.deprecation h).symm

theorem TypeDef.within_of_unwrapped_eq (type other : TypeDef)
    (h : type.unwrapped = other.unwrapped) : type.Within other where
  name := (congrArg TypeDef.name h).symm
  kind := (congrArg TypeDef.kind h).symm
  fields := Table.within_of_map_eq (congrArg TypeDef.fields h) FieldDef.within_of_unwrapped_eq
  inputFields :=
    Table.within_of_map_eq (congrArg TypeDef.inputFields h) InputValueDef.alike_of_unwrapped_eq
  enumValues := by
    have hvalues : type.enumValues = other.enumValues := by
      show type.unwrapped.enumValues = other.unwrapped.enumValues
      rw [h]
    rw [hvalues]
    exact fun name value hvalue ↦ ⟨value, hvalue, rfl⟩

theorem DirectiveDef.within_of_unwrapped_eq (directive other : DirectiveDef)
    (h : directive.unwrapped = other.unwrapped) : directive.Within other :=
  Table.within_of_map_eq (congrArg DirectiveDef.arguments h) InputValueDef.alike_of_unwrapped_eq

/-- Of two schemas that are the same but for layers, the one is within the other. -/
theorem Schema.within_of_unwrapped_eq {schema other : Schema}
    (h : schema.unwrapped = other.unwrapped) : schema.Within other := by
  have htypes : schema.types.Within TypeDef.Within other.types :=
    Table.within_of_map_eq (congrArg Schema.types h) TypeDef.within_of_unwrapped_eq
  have hroots : schema.roots = other.roots := by
    show schema.unwrapped.roots = other.unwrapped.roots
    rw [h]
  refine ⟨htypes, ?_, ?_⟩
  · exact Table.rel_of_map_eq (congrArg Schema.directives h) DirectiveDef.within_of_unwrapped_eq
  · intro kind
    unfold root?
    rw [hroots]
    intro type htype
    obtain ⟨name, hname, htype⟩ := Option.mem_bind_iff.mp htype
    obtain ⟨found, hfound, hwithin⟩ := htypes name type htype
    exact ⟨found, Option.mem_bind_iff.mpr ⟨name, hname, hfound⟩, hwithin⟩

end QueryLint
