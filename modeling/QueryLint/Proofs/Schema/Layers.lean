import QueryLint.Proofs.Schema.Resolution

/-!
# Layers of references and of resolved types

A reference and a resolved type have list and non-null layers of their own, and each is taken apart
from the outside in. Main statement: `Schema.resolve?_layers`. A reference resolves exactly if its
name is one of the schema, and then the resolved type has the layers of the reference over the type
of that name. So the two can be taken apart in step, whatever is below.
-/

namespace QueryLint

/-- The two kinds of layer. -/
inductive Wrapper where
  | list
  | nonNull
  deriving DecidableEq, Repr

namespace TypeRef

/-- The layers, from the outside in. -/
def wrappers : TypeRef → List Wrapper
  | named _ => []
  | list item => .list :: item.wrappers
  | nonNull inner => .nonNull :: inner.wrappers

/-- The reference below a number of layers, if there are that many. -/
def below? : Nat → TypeRef → Option TypeRef
  | 0, type => some type
  | count + 1, type => type.inner?.bind (below? count)

end TypeRef

namespace ResolvedType

/-- The layers, from the outside in. -/
def wrappers : ResolvedType → List Wrapper
  | named _ => []
  | list item => .list :: item.wrappers
  | nonNull inner => .nonNull :: inner.wrappers

/-- The type below a number of layers, if there are that many. -/
def below? : Nat → ResolvedType → Option ResolvedType
  | 0, type => some type
  | count + 1, type => type.inner?.bind (below? count)

/-- A layer is a list or non-null, or it is the named type itself. -/
theorem fieldMap_eq_none_of_wrappers {type : ResolvedType} (h : type.wrappers ≠ []) :
    type.fieldMap = none := by
  cases type with
  | named type => exact absurd rfl h
  | list item => rfl
  | nonNull inner => rfl

/-- What offers a field is the outermost layer, or else what is below it. -/
theorem offers_eq_or_inner? (type : ResolvedType) (name : String) :
    type.offers name =
      (type.fieldMap.any (·.contains name) || type.inner?.any (·.offers name)) := by
  cases type <;> simp [offers, layers, inner?]

end ResolvedType

namespace Schema

variable (schema : Schema)

/-- A resolved type has the layers of its reference over the type of its name. -/
theorem resolve?_eq_some_iff {type : TypeRef} {found : ResolvedType} :
    schema.resolve? type = some found ↔
      found.wrappers = type.wrappers ∧ schema.type? type.name = some found.namedType := by
  induction type generalizing found with
  | named name =>
      cases found <;>
        simp [resolve?, TypeRef.name, TypeRef.wrappers, ResolvedType.wrappers,
          ResolvedType.namedType]
  | list item ih =>
      cases found <;>
        simp [resolve?, TypeRef.name, TypeRef.wrappers, ResolvedType.wrappers,
          ResolvedType.namedType, ih]
  | nonNull inner ih =>
      cases found <;>
        simp [resolve?, TypeRef.name, TypeRef.wrappers, ResolvedType.wrappers,
          ResolvedType.namedType, ih]

/-- The outermost layer can be taken off before or after the look-up. -/
theorem bind_inner?_resolve? (type : TypeRef) :
    (schema.resolve? type).bind ResolvedType.inner? = type.inner?.bind schema.resolve? := by
  cases type with
  | named name =>
      rw [resolve?]
      cases schema.type? name <;> rfl
  | list item =>
      show ((schema.resolve? item).map .list).bind ResolvedType.inner? = schema.resolve? item
      cases schema.resolve? item <;> rfl
  | nonNull inner =>
      show ((schema.resolve? inner).map .nonNull).bind ResolvedType.inner? = schema.resolve? inner
      cases schema.resolve? inner <;> rfl

/-- Any number of layers can be taken off before or after the look-up. -/
theorem bind_below?_resolve? (count : Nat) (type : TypeRef) :
    (schema.resolve? type).bind (ResolvedType.below? count) =
      (type.below? count).bind schema.resolve? := by
  induction count generalizing type with
  | zero => exact Option.bind_fun_some (schema.resolve? type)
  | succ count ih =>
      calc (schema.resolve? type).bind (ResolvedType.below? (count + 1))
          = ((schema.resolve? type).bind ResolvedType.inner?).bind (ResolvedType.below? count) :=
            (Option.bind_assoc _ _ _).symm
        _ = (type.inner?.bind schema.resolve?).bind (ResolvedType.below? count) := by
            rw [bind_inner?_resolve?]
        _ = type.inner?.bind fun inner ↦ (inner.below? count).bind schema.resolve? := by
            rw [Option.bind_assoc]
            simp only [ih]
        _ = (type.below? (count + 1)).bind schema.resolve? := (Option.bind_assoc _ _ _).symm

/-- Where types stand under their own names, the reference can be read off the resolved type. -/
theorem toRef_of_resolve? (hnames : ∀ name type, schema.type? name = some type → type.name = name)
    {type : TypeRef} {found : ResolvedType} (h : schema.resolve? type = some found) :
    found.toRef = type := by
  induction type generalizing found with
  | named name =>
      obtain ⟨owner, howner, rfl⟩ := Option.map_eq_some_iff.mp h
      rw [ResolvedType.toRef, hnames name owner howner]
  | list item ih =>
      obtain ⟨inner, hinner, rfl⟩ := Option.map_eq_some_iff.mp h
      rw [ResolvedType.toRef, ih hinner]
  | nonNull inner ih =>
      obtain ⟨resolved, hresolved, rfl⟩ := Option.map_eq_some_iff.mp h
      rw [ResolvedType.toRef, ih hresolved]

/-- What a reference offers are the fields of the object or interface of its name. -/
theorem any_offers_resolve?_iff (type : TypeRef) (name : String) :
    (schema.resolve? type).any (·.offers name) = true ↔
      ∃ owner, schema.type? type.name = some owner ∧
        (owner.kind = .object ∨ owner.kind = .interface) ∧ name ∈ owner.fields.keys := by
  rw [← schema.map_namedType_resolve? type]
  cases schema.resolve? type with
  | none => simp
  | some found =>
      have hoffers := found.offers_eq_any_fieldMap name
      cases hkind : found.namedType.kind <;>
        simp [hoffers, hkind, TypeDef.fieldMap, TypeKind.hasFields, Table.mem_keys_iff,
          Table.contains]

/-- A reference resolves exactly if the schema has a type of its name. Then the resolved type has the
layers of the reference, in their order, over that type, and any number of them can be taken off
both; it reads like the reference if types stand under their own names. List and non-null layers
have no fields, so what is offered are the fields of the type of the name, if that is an object or an
interface, whatever the layers are. -/
theorem resolve?_layers (type : TypeRef) :
    ((schema.resolve? type).isSome ↔ (schema.type? type.name).isSome) ∧
      (∀ found, schema.resolve? type = some found ↔
        found.wrappers = type.wrappers ∧ schema.type? type.name = some found.namedType) ∧
      (∀ count, (schema.resolve? type).bind (ResolvedType.below? count) =
        (type.below? count).bind schema.resolve?) ∧
      (∀ layer : ResolvedType, layer.wrappers ≠ [] → layer.fieldMap = none) ∧
      ((∀ name found, schema.type? name = some found → found.name = name) →
        ∀ found, schema.resolve? type = some found → found.render = type.render) ∧
      ∀ name, (schema.resolve? type).any (·.offers name) = true ↔
        ∃ owner, schema.type? type.name = some owner ∧
          (owner.kind = .object ∨ owner.kind = .interface) ∧ name ∈ owner.fields.keys := by
  refine ⟨?_, fun found ↦ schema.resolve?_eq_some_iff, fun count ↦ ?_, fun layer ↦ ?_, ?_, ?_⟩
  · rw [← schema.map_namedType_resolve? type, Option.isSome_map]
  · exact schema.bind_below?_resolve? count type
  · exact ResolvedType.fieldMap_eq_none_of_wrappers
  · intro hnames found hfound
    rw [ResolvedType.render, schema.toRef_of_resolve? hnames hfound]
  · exact schema.any_offers_resolve?_iff type

/-- A list under two non-null layers of an object, in a schema where types stand under their own
names, and a list of a type that the schema does not have. -/
theorem resolve?_layers_required_twice :
    let field : FieldDef := ⟨"id", none, .named "ID", .empty, none⟩
    let query : TypeDef := { TypeDef.bare "Query" .object none with fields := .ofList [("id", field)] }
    let schema : Schema := { Schema.empty with types := .ofList [("Query", query)] }
    let type : TypeRef := .nonNull (.nonNull (.list (.named "Query")))
    (∀ name found, schema.type? name = some found → found.name = name) ∧
      (schema.resolve? type).map ResolvedType.render = some "[Query]!!" ∧
        (schema.resolve? type).map ResolvedType.wrappers = some [.nonNull, .nonNull, .list] ∧
          (schema.resolve? type).any (·.offers "id") = true ∧
            (schema.resolve? (.list (.named "Any"))).isSome = false := by
  intro field query schema type
  have hnames : ∀ name found, schema.type? name = some found → found.name = name := by
    intro name found hfound
    have hread : schema.type? name = if name = "Query" then some query else none :=
      Table.get?_insert .empty "Query" name query
    rw [hread] at hfound
    split at hfound
    · next hname =>
        cases hfound
        exact hname.symm
    · cases hfound
  obtain ⟨hpresent, hlayers, -, -, hrender, hoffers⟩ := schema.resolve?_layers type
  obtain ⟨hmissing, -⟩ := schema.resolve?_layers (.list (.named "Any"))
  obtain ⟨found, hfound⟩ := Option.isSome_iff_exists.mp (hpresent.mpr rfl)
  refine ⟨hnames, ?_, ?_, (hoffers "id").mpr ⟨query, rfl, .inl rfl, by decide⟩, ?_⟩
  · rw [hfound, Option.map_some, hrender hnames found hfound]
    rfl
  · rw [hfound, Option.map_some, ((hlayers found).mp hfound).1]
    rfl
  · exact Bool.eq_false_iff.mpr fun h ↦ absurd (hmissing.mp h) (by decide)

end Schema

end QueryLint
