import QueryLint.Language.Document

/-!
# Type references

A `TypeRef` is a named type under any number of list and non-null layers. Unlike a type as written,
it may hold one non-null layer directly around another.
-/

namespace QueryLint

open QueryLint.Language

/-- A named type under list and non-null layers. -/
inductive TypeRef where
  | named (name : String)
  | list (item : TypeRef)
  | nonNull (inner : TypeRef)
  deriving DecidableEq, Repr, Inhabited

namespace TypeRef

/-- The name at the innermost layer. -/
def name : TypeRef → String
  | named name => name
  | list inner | nonNull inner => inner.name

/-- The reference below the outermost layer, if there is a layer. -/
def inner? : TypeRef → Option TypeRef
  | named _ => none
  | list inner | nonNull inner => some inner

/-- A reference in the notation of type definitions: `[T]` for a list, `T!` for non-null. -/
def render : TypeRef → String
  | named name => name
  | list item => "[" ++ item.render ++ "]"
  | nonNull inner => inner.render ++ "!"

/-- A reference under a non-null layer if `required`. -/
def requiredIf (required : Bool) (type : TypeRef) : TypeRef :=
  if required then nonNull type else type

/-- The reference that a written type stands for. -/
def ofExpr : TypeExpr → TypeRef
  | .named name required => (named name.text).requiredIf required
  | .list item required => (list (ofExpr item)).requiredIf required

@[simp] theorem name_requiredIf (required : Bool) (type : TypeRef) :
    (type.requiredIf required).name = type.name := by
  cases required <;> rfl

/-- A written type and the reference it stands for have the same innermost name. -/
theorem name_ofExpr (type : TypeExpr) : (ofExpr type).name = type.name.text := by
  induction type with
  | named word required => simp [ofExpr, name, TypeExpr.name]
  | list item required ih => simp [ofExpr, name, TypeExpr.name, ih]

end TypeRef

end QueryLint
