import QueryLint.Schema.InForce

/-!
# Resolved types

Looking up a type reference keeps its layers and replaces its innermost name by the type of that
name. Main statements: `Schema.map_namedType_resolve?` and `ResolvedType.offers_eq_any_fieldMap`,
which say that what a resolved type is and what it offers do not depend on its layers.
-/

namespace QueryLint

/-- A reference resolves to the type of its innermost name. -/
theorem Schema.map_namedType_resolve? (schema : Schema) (type : TypeRef) :
    (schema.resolve? type).map ResolvedType.namedType = schema.type? type.name := by
  induction type with
  | named name =>
      unfold resolve? TypeRef.name
      cases schema.type? name <;> rfl
  | list item ih =>
      rw [TypeRef.name, ← ih, resolve?]
      cases schema.resolve? item <;> rfl
  | nonNull inner ih =>
      rw [TypeRef.name, ← ih, resolve?]
      cases schema.resolve? inner <;> rfl

/-- List and non-null layers offer nothing of their own. -/
theorem ResolvedType.offers_eq_any_fieldMap (type : ResolvedType) (name : String) :
    type.offers name = type.namedType.fieldMap.any (·.contains name) := by
  induction type with
  | named type => simp [offers, layers, fieldMap, namedType]
  | list item ih =>
      rw [namedType, ← ih]
      simp [offers, layers, fieldMap]
  | nonNull inner ih =>
      rw [namedType, ← ih]
      simp [offers, layers, fieldMap]

/-- Taking the item of a list leaves the innermost layer as it is. -/
theorem ResolvedType.namedType_itemType (type : ResolvedType) :
    type.itemType.namedType = type.namedType := by
  cases type with
  | named type => rfl
  | list item => rfl
  | nonNull inner => cases inner <;> rfl

end QueryLint
