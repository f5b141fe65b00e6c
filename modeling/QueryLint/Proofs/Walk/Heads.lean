import QueryLint.Proofs.Walk.Places

/-!
# Constructs apart from their ranges

`Construct.head` is what a construct says itself, without ranges and without what stands in it. So
two constructs say the same, wherever they stand, if they have the same head and their parts say the
same one by one. A type stays in the head of what is declared with it.
-/

namespace QueryLint.Language

/-- The name without its range. -/
def Name.unplaced (name : Name) : Name := { name with span := default }

/-- The type with its name without range. -/
def TypeExpr.unplaced : TypeExpr → TypeExpr
  | named name required => named name.unplaced required
  | list item required => list item.unplaced required

/-- The kind of a type without its members. -/
def TypeBody.head : TypeBody → TypeBody
  | scalar => scalar
  | object _ _ => object [] []
  | interface _ _ => interface [] []
  | union _ => union []
  | enum _ => enum []
  | input _ => input []

/-- The description, the name and the kind of a type. -/
def TypeDefinition.head (it : TypeDefinition) : TypeDefinition :=
  ⟨it.description, it.name.unplaced, [], it.body.head⟩

namespace Construct

/-- What a construct says itself, without ranges and without what stands in it. -/
def head : Construct → Construct
  | definition (.operation it) =>
    definition (.operation ⟨default, it.kind, it.name.map Name.unplaced, [], [], ⟨default, []⟩⟩)
  | definition (.fragment it) =>
    definition (.fragment
      ⟨default, it.name.unplaced, it.condition.unplaced, [], ⟨default, []⟩⟩)
  | definition (.schema _) => definition (.schema ⟨[], []⟩)
  | definition (.directive it) =>
    definition (.directive
      ⟨it.description, it.name.unplaced, [], it.repeatable, it.locations.map Name.unplaced⟩)
  | definition (.type it) => definition (.type it.head)
  | definition (.extendSchema _) => definition (.extendSchema ⟨[], []⟩)
  | definition (.extendType it) => definition (.extendType it.head)
  | variableDefinition it =>
    variableDefinition ⟨default, it.name.unplaced, it.type.unplaced, none, []⟩
  | declared name => declared name.unplaced
  | type it => type it.unplaced
  | namedType name => namedType name.unplaced
  | value (.var _ name) => value (.var default name.unplaced)
  | value (.int _ text) => value (.int default text)
  | value (.float _ text) => value (.float default text)
  | value (.string _ text) => value (.string default text)
  | value (.boolean _ content) => value (.boolean default content)
  | value (.null _) => value (.null default)
  | value (.enum name) => value (.enum name.unplaced)
  | value (.list _ _) => value (.list default [])
  | value (.object _ _) => value (.object default [])
  | objectField it => objectField ⟨default, it.name.unplaced, none⟩
  | argument it => argument ⟨default, it.name.unplaced, none⟩
  | directive it => directive ⟨default, it.name.unplaced, []⟩
  | selectionSet _ => selectionSet ⟨default, []⟩
  | selection (.field it) =>
    selection (.field
      ⟨default, it.aliasName.map Name.unplaced, it.name.unplaced, [], [], none⟩)
  | selection (.inline it) =>
    selection (.inline ⟨default, it.condition.map Name.unplaced, [], ⟨default, []⟩⟩)
  | selection (.spread _ name _) => selection (.spread default name.unplaced [])
  | rootDefinition it => rootDefinition ⟨it.kind, none⟩
  | fieldDefinition it =>
    fieldDefinition ⟨it.description, it.name.unplaced, [], it.type.unplaced, []⟩
  | inputValueDefinition it =>
    inputValueDefinition
      ⟨it.description, it.name.unplaced, it.type.unplaced, it.default, []⟩
  | enumValueDefinition it => enumValueDefinition ⟨it.description, it.name.unplaced, []⟩

/-- Selections stand in selection sets only. -/
theorem eq_selectionSet_of_mem_parts {here : Construct} {item : Selection}
    (h : selection item ∈ here.parts) : ∃ set, here = selectionSet set := by
  cases here with
  | selectionSet set => exact ⟨set, rfl⟩
  | definition it =>
      cases it with
      | type it | extendType it =>
          obtain ⟨description, name, directives, body⟩ := it
          cases body <;> simp [parts, ofBody] at h
      | _ => simp [parts] at h
  | type it => cases it <;> simp [parts] at h
  | value it => cases it <;> simp [parts] at h
  | selection it => cases it <;> simp [parts] at h
  | _ => simp [parts] at h

end Construct

end QueryLint.Language
