import Mathlib.Data.List.Basic
import QueryLint.Proofs.Schema.Resolution
import QueryLint.Proofs.Table

/-!
# A schema within another

A schema is within another if whatever it knows, the other knows too, list and non-null layers
aside. The other may know more, but no directive more: an argument of a directive that a schema does
not have is taken for one of the field around it, so a new directive could hide something.

Main statements: everything that a schema puts into force at a place of a document stays within what
the other schema puts into force there (`Schema.Within.inputType?` and those after it). A schema that
extends another has that schema within it (`Schema.Extends.within`).
-/

namespace QueryLint

open QueryLint.Language

/-! ## What is known on two sides -/

/-- What is known on the left is known on the right, up to a relation. -/
def Kept {α β : Type} (r : α → β → Prop) (left : Option α) (right : Option β) : Prop :=
  ∀ a ∈ left, ∃ b ∈ right, r a b

namespace Kept

variable {α β γ δ : Type} {r : α → β → Prop} {s : γ → δ → Prop} {left : Option α}
  {right : Option β}

theorem of_none (right : Option β) : Kept r none right := by
  simp [Kept]

theorem of_some {a : α} {b : β} (h : r a b) : Kept r (some a) (some b) := by
  simpa [Kept] using h

theorem of_rel (h : Option.Rel r left right) : Kept r left right := by
  cases h with
  | some hab => exact of_some hab
  | none => exact of_none none

theorem bind {f : α → Option γ} {g : β → Option δ} (h : Kept r left right)
    (hfg : ∀ a b, r a b → Kept s (f a) (g b)) : Kept s (left.bind f) (right.bind g) := by
  intro c hc
  obtain ⟨a, ha, hc⟩ := Option.mem_bind_iff.mp hc
  obtain ⟨b, hb, hab⟩ := h a ha
  obtain ⟨d, hd, hcd⟩ := hfg a b hab c hc
  exact ⟨d, Option.mem_bind_iff.mpr ⟨b, hb, hd⟩, hcd⟩

theorem map {f : α → γ} {g : β → δ} (h : Kept r left right) (hfg : ∀ a b, r a b → s (f a) (g b)) :
    Kept s (left.map f) (right.map g) := by
  rw [Option.map_eq_bind, Option.map_eq_bind]
  exact h.bind fun a b hab ↦ of_some (hfg a b hab)

theorem filter {p : α → Bool} {q : β → Bool} (h : Kept r left right)
    (hpq : ∀ a b, r a b → p a = q b) : Kept r (left.filter p) (right.filter q) := by
  intro a ha
  obtain ⟨ha, hp⟩ := Option.mem_filter_iff.mp ha
  obtain ⟨b, hb, hab⟩ := h a ha
  exact ⟨b, Option.mem_filter_iff.mpr ⟨hb, hpq a b hab ▸ hp⟩, hab⟩

theorem any {p : α → Bool} {q : β → Bool} (h : Kept r left right)
    (hpq : ∀ a b, r a b → p a = true → q b = true) (hleft : left.any p = true) :
    right.any q = true := by
  obtain ⟨a, ha, hp⟩ := (Option.any_eq_true p left).mp hleft
  obtain ⟨b, hb, hab⟩ := h a ha
  exact (Option.any_eq_true q right).mpr ⟨b, hb, hpq a b hab hp⟩

end Kept

namespace Table

variable {α β : Type}

/-- Every entry of the first table has one of the same name in the second, up to a relation. -/
def Within (r : α → β → Prop) (small : Table α) (large : Table β) : Prop :=
  ∀ name, Kept r (small.get? name) (large.get? name)

/-- Tables agree under every name if they do under those that either has. -/
theorem get?_eq_iff_forall_keys {first second : Table α} :
    (∀ name, first.get? name = second.get? name) ↔
      ∀ name ∈ first.keys ++ second.keys, first.get? name = second.get? name := by
  refine ⟨fun h name _ ↦ h name, fun h name ↦ ?_⟩
  by_cases hname : name ∈ first.keys ++ second.keys
  · exact h name hname
  · -- Neither table has the name.
    rw [List.mem_append, mem_keys_iff, mem_keys_iff, not_or, Bool.not_eq_true, Bool.not_eq_true,
      Option.isSome_eq_false_iff, Option.isSome_eq_false_iff, Option.isNone_iff_eq_none,
      Option.isNone_iff_eq_none] at hname
    rw [hname.1, hname.2]

theorem Within.contains {r : α → β → Prop} {small : Table α} {large : Table β}
    (h : small.Within r large) {name : String} (hname : small.contains name = true) :
    large.contains name = true := by
  obtain ⟨value, hvalue⟩ := Option.isSome_iff_exists.mp hname
  obtain ⟨other, hother, -⟩ := h name value hvalue
  exact Option.isSome_iff_exists.mpr ⟨other, hother⟩

end Table

/-! ## Members and types -/

/-- The two take the same named type. -/
def InputValueDef.Alike (small large : InputValueDef) : Prop :=
  large.type.name = small.type.name

/-- The second field has the name and the deprecation of the first, yields the same named type and
takes the arguments of the first. -/
structure FieldDef.Within (small large : FieldDef) : Prop where
  name : large.name = small.name
  type : large.type.name = small.type.name
  arguments : small.arguments.Within InputValueDef.Alike large.arguments
  deprecation : large.deprecation = small.deprecation

theorem FieldDef.Within.refl (field : FieldDef) : field.Within field :=
  ⟨rfl, rfl, fun _ argument h ↦ ⟨argument, h, rfl⟩, rfl⟩

/-- The second type is of the same name and kind and has the members of the first. -/
structure TypeDef.Within (small large : TypeDef) : Prop where
  name : large.name = small.name
  kind : large.kind = small.kind
  fields : small.fields.Within FieldDef.Within large.fields
  inputFields : small.inputFields.Within InputValueDef.Alike large.inputFields
  enumValues : small.enumValues.Within Eq large.enumValues

/-- The second directive takes the arguments of the first. -/
def DirectiveDef.Within (small large : DirectiveDef) : Prop :=
  small.arguments.Within InputValueDef.Alike large.arguments

/-- The innermost type of the first is within that of the second. -/
def ResolvedType.Within (small large : ResolvedType) : Prop :=
  small.namedType.Within large.namedType

namespace TypeDef.Within

variable {small large : TypeDef}

theorem fieldMap (h : small.Within large) :
    Kept (Table.Within FieldDef.Within) small.fieldMap large.fieldMap := by
  unfold TypeDef.fieldMap
  rw [h.kind]
  split
  · exact .of_some h.fields
  · exact .of_none _

/-- What a selection means on the first type it means on the second. -/
theorem selectable? (h : small.Within large) (name : String) :
    Kept FieldDef.Within (small.selectable? name) (large.selectable? name) := by
  unfold TypeDef.selectable? TypeDef.field?
  rw [h.kind]
  split
  · exact .of_some (.refl TypeDef.typenameDef)
  · exact h.fieldMap.bind fun _ _ hfields ↦ hfields name

theorem inputField? (h : small.Within large) (name : String) :
    Kept InputValueDef.Alike (small.inputField? name) (large.inputField? name) := by
  unfold TypeDef.inputField?
  rw [h.kind]
  split
  · exact h.inputFields name
  · exact .of_none _

theorem enumValue? (h : small.Within large) (name : String) :
    Kept Eq (small.enumValue? name) (large.enumValue? name) := by
  unfold TypeDef.enumValue?
  rw [h.kind]
  split
  · exact h.enumValues name
  · exact .of_none _

end TypeDef.Within

namespace ResolvedType.Within

variable {small large : ResolvedType}

/-- The items of a list are given for the same innermost type as the list. -/
theorem itemType (h : small.Within large) : small.itemType.Within large.itemType := by
  unfold ResolvedType.Within
  rw [namedType_itemType, namedType_itemType]
  exact h

theorem parentType? (h : small.Within large) :
    Kept TypeDef.Within small.parentType? large.parentType? := by
  unfold ResolvedType.parentType?
  rw [TypeDef.Within.kind h]
  split
  · exact .of_some h
  · exact .of_none _

/-- What the first type offers the second offers. -/
theorem offers (h : small.Within large) {name : String} (hname : small.offers name = true) :
    large.offers name = true := by
  rw [offers_eq_any_fieldMap] at hname ⊢
  exact (TypeDef.Within.fieldMap h).any (fun _ _ hfields ↦ hfields.contains) hname

end ResolvedType.Within

/-! ## Schemas -/

/-- What the first schema knows the second knows, and both have the same directives. -/
structure Schema.Within (small large : Schema) : Prop where
  types : small.types.Within TypeDef.Within large.types
  directives (name : String) :
    Option.Rel DirectiveDef.Within (small.directive? name) (large.directive? name)
  roots (kind : OperationKind) : Kept TypeDef.Within (small.root? kind) (large.root? kind)

namespace Schema.Within

variable {small large : Schema}

/-- References to the same name resolve alike, whatever their layers. -/
theorem resolve? (h : small.Within large) {type other : TypeRef} (hname : other.name = type.name) :
    Kept ResolvedType.Within (small.resolve? type) (large.resolve? other) := by
  intro resolved hresolved
  have hsmall := small.map_namedType_resolve? type
  have hlarge := large.map_namedType_resolve? other
  rw [hresolved, Option.map_some] at hsmall
  obtain ⟨named, hnamed, hwithin⟩ := h.types type.name resolved.namedType hsmall.symm
  rw [hname, type?, hnamed, Option.map_eq_some_iff] at hlarge
  obtain ⟨found, hfound, rfl⟩ := hlarge
  exact ⟨found, hfound, hwithin⟩

theorem operationType? (h : small.Within large) (kind : OperationKind) :
    Kept ResolvedType.Within (small.operationType? kind) (large.operationType? kind) :=
  ((h.roots kind).filter fun _ _ htype ↦ by rw [htype.kind]).map fun _ _ htype ↦ htype

theorem conditionType? (h : small.Within large) (name : String) :
    Kept ResolvedType.Within (small.conditionType? name) (large.conditionType? name) :=
  ((h.types name).filter fun _ _ htype ↦ by rw [htype.kind]).map fun _ _ htype ↦ htype

theorem outputType? (h : small.Within large) {type other : TypeRef}
    (hname : other.name = type.name) :
    Kept ResolvedType.Within (small.outputType? type) (large.outputType? other) :=
  (h.resolve? hname).filter fun _ _ htype ↦ by rw [TypeDef.Within.kind htype]

theorem inputType? (h : small.Within large) {type other : TypeRef}
    (hname : other.name = type.name) :
    Kept ResolvedType.Within (small.inputType? type) (large.inputType? other) :=
  (h.resolve? hname).filter fun _ _ htype ↦ by rw [TypeDef.Within.kind htype]

end Schema.Within

/-! ## Extensions -/

/-- Every entry of the second table is in the first. -/
def Table.Includes {α : Type} (larger smaller : Table α) : Prop :=
  ∀ entry ∈ smaller.entries, larger.get? entry.1 = some entry.2

instance {α : Type} [DecidableEq α] (larger smaller : Table α) :
    Decidable (larger.Includes smaller) :=
  inferInstanceAs (Decidable (∀ entry ∈ smaller.entries, _))

/-- The first type is of the same name and kind as the second and has at least the same members. -/
structure TypeDef.Extends (larger smaller : TypeDef) : Prop where
  name : larger.name = smaller.name
  kind : larger.kind = smaller.kind
  fields : larger.fields.Includes smaller.fields
  inputFields : larger.inputFields.Includes smaller.inputFields
  enumValues : larger.enumValues.Includes smaller.enumValues

/-- The first schema has at least the types of the second, each with at least the same members. It
has the same directives, and the same root type wherever the second has one. -/
structure Schema.Extends (larger smaller : Schema) : Prop where
  types : ∀ entry ∈ smaller.types.entries,
    ∃ type ∈ larger.type? entry.1, type.Extends entry.2
  directives (name : String) : larger.directive? name = smaller.directive? name
  roots (kind : OperationKind) (h : (smaller.root? kind).isSome) :
    larger.roots.get kind = smaller.roots.get kind

instance (larger smaller : TypeDef) : Decidable (larger.Extends smaller) :=
  decidable_of_iff
    (larger.name = smaller.name ∧ larger.kind = smaller.kind ∧
      larger.fields.Includes smaller.fields ∧ larger.inputFields.Includes smaller.inputFields ∧
      larger.enumValues.Includes smaller.enumValues)
    ⟨fun ⟨name, kind, fields, inputFields, enumValues⟩ ↦
        ⟨name, kind, fields, inputFields, enumValues⟩,
      fun h ↦ ⟨h.name, h.kind, h.fields, h.inputFields, h.enumValues⟩⟩

/-- Only the names that one of the schemas has need to be looked up. -/
instance (larger smaller : Schema) : Decidable (larger.Extends smaller) :=
  decidable_of_iff
    ((∀ entry ∈ smaller.types.entries, ∃ type ∈ larger.type? entry.1, type.Extends entry.2) ∧
      (∀ name ∈ larger.directives.keys ++ smaller.directives.keys,
        larger.directives.get? name = smaller.directives.get? name) ∧
      ∀ kind ∈ [OperationKind.query, .mutation, .subscription],
        (smaller.root? kind).isSome → larger.roots.get kind = smaller.roots.get kind)
    ⟨fun ⟨types, directives, roots⟩ ↦
        ⟨types, Table.get?_eq_iff_forall_keys.mpr directives,
          fun kind ↦ roots kind (by cases kind <;> simp)⟩,
      fun h ↦ ⟨h.types, fun name _ ↦ h.directives name, fun kind _ ↦ h.roots kind⟩⟩

theorem Table.Includes.within {α : Type} {r : α → α → Prop} {larger smaller : Table α}
    (h : larger.Includes smaller) (hr : ∀ value, r value value) : smaller.Within r larger :=
  fun _ value hvalue ↦ ⟨value, h _ (mem_entries_of_get? hvalue), hr value⟩

theorem TypeDef.Extends.within {larger smaller : TypeDef} (h : larger.Extends smaller) :
    smaller.Within larger where
  name := h.name
  kind := h.kind
  fields := h.fields.within FieldDef.Within.refl
  inputFields := h.inputFields.within fun _ ↦ rfl
  enumValues := h.enumValues.within fun _ ↦ rfl

/-- A schema is within any that extends it. -/
theorem Schema.Extends.within {larger smaller : Schema} (h : larger.Extends smaller) :
    smaller.Within larger where
  types := fun name type htype ↦ by
    obtain ⟨other, hother, hextends⟩ := h.types _ (Table.mem_entries_of_get? htype)
    exact ⟨other, hother, hextends.within⟩
  directives := fun name ↦ by
    rw [h.directives name]
    cases smaller.directive? name with
    | none => exact .none
    | some directive => exact .some fun _ argument hargument ↦ ⟨argument, hargument, rfl⟩
  roots := fun kind type htype ↦ by
    have hroot := h.roots kind (Option.isSome_iff_exists.mpr ⟨type, htype⟩)
    -- The names are the same, but the larger schema may have more of the type under it.
    unfold root? at htype ⊢
    obtain ⟨name, hname, htype⟩ := Option.mem_bind_iff.mp htype
    obtain ⟨other, hother, hextends⟩ := h.types _ (Table.mem_entries_of_get? htype)
    exact ⟨other, Option.mem_bind_iff.mpr ⟨name, hroot ▸ hname, hother⟩, hextends.within⟩

end QueryLint
