import QueryLint.Proofs.Schema.Merging

/-!
# Members and the kind of their type

A type has three tables of members, whatever its kind. A definition fills only the one that goes
with its kind. An extension fills the one that goes with the kind of the extension, whatever type it
names. Main statement: `Schema.members_of_ofDefinitions`. The tables that do not go with the kind of
a type are empty exactly if no extension of the type puts a member into them.

The tables hold what the bodies of the definition and of the extensions give (`TypeDef.HasMembers`),
so it is enough to look at these bodies one by one.
-/

namespace QueryLint

open QueryLint.Language

/-! ## Types and bodies -/

/-- Only the table that goes with the kind of the type has members. -/
structure TypeDef.Fits (type : TypeDef) : Prop where
  fields : type.kind.hasFields = false → type.fields = .empty
  inputFields : type.kind ≠ .inputObject → type.inputFields = .empty
  enumValues : type.kind ≠ .enum → type.enumValues = .empty

theorem TypeDef.fits_iff (type : TypeDef) :
    type.Fits ↔
      (type.kind.hasFields = false → type.fields = .empty) ∧
        (type.kind ≠ .inputObject → type.inputFields = .empty) ∧
          (type.kind ≠ .enum → type.enumValues = .empty) :=
  ⟨fun h ↦ ⟨h.fields, h.inputFields, h.enumValues⟩, fun h ↦ ⟨h.1, h.2.1, h.2.2⟩⟩

instance (type : TypeDef) : Decidable type.Fits := decidable_of_iff' _ type.fits_iff

namespace Language.TypeBody

/-- The body has no members but those that go with a kind of type. -/
structure Suits (kind : TypeKind) (body : TypeBody) : Prop where
  fields : kind.hasFields = false → body.fieldDefinitions = []
  inputFields : kind ≠ .inputObject → body.inputFieldDefinitions = []
  enumValues : kind ≠ .enum → body.enumValueDefinitions = []

/-- A body suits the kind of type that it declares. -/
theorem suits_ofBody (body : TypeBody) : body.Suits (.ofBody body) := by
  cases body <;> exact ⟨by simp [TypeKind.ofBody, TypeKind.hasFields, fieldDefinitions],
    by simp [TypeKind.ofBody, inputFieldDefinitions],
    by simp [TypeKind.ofBody, enumValueDefinitions]⟩

/-- Bodies of scalars and unions add nothing. -/
theorem addMembers_of_not_extendable {body : TypeBody}
    (h : TypeKind.ofBody body ∉ TypeKind.extendable) (type : TypeDef) :
    type.addMembers body = type := by
  cases body with
  | scalar | union => rfl
  | object | interface | enum | input => simp [TypeKind.ofBody, TypeKind.extendable] at h

end Language.TypeBody

/-- A table of definitions is empty exactly if there are none. -/
theorem Table.Collects.eq_empty_iff {α β : Type} {name : β → String} {value : β → α}
    {items : List β} {table : Table α} (h : table.Collects name value items) :
    table = .empty ↔ items = [] := by
  constructor
  · rintro rfl
    cases items with
    | nil => rfl
    | cons item rest =>
        have hkeys := h.keys
        rw [List.map_cons, List.eraseDups_cons] at hkeys
        cases hkeys
  · rintro rfl
    exact h.eq_ofList

namespace TypeDef

/-- A type with the members of some bodies fits exactly if all of them suit its kind. -/
theorem HasMembers.fits_iff {bodies : List TypeBody} {type : TypeDef}
    (h : type.HasMembers bodies) : type.Fits ↔ ∀ body ∈ bodies, body.Suits type.kind := by
  rw [TypeDef.fits_iff, h.fields.eq_empty_iff, h.inputFields.eq_empty_iff,
    h.enumValues.eq_empty_iff]
  simp only [List.flatMap_eq_nil_iff]
  constructor
  · rintro ⟨hfields, hinputFields, henumValues⟩ body hbody
    exact ⟨fun hkind ↦ hfields hkind body hbody, fun hkind ↦ hinputFields hkind body hbody,
      fun hkind ↦ henumValues hkind body hbody⟩
  · intro hsuits
    exact ⟨fun hkind body hbody ↦ (hsuits body hbody).fields hkind,
      fun hkind body hbody ↦ (hsuits body hbody).inputFields hkind,
      fun hkind body hbody ↦ (hsuits body hbody).enumValues hkind⟩

theorem kind_addMembers (type : TypeDef) (body : TypeBody) :
    (type.addMembers body).kind = type.kind := by
  cases body <;> rfl

/-- Extensions do not change the kind of a type. -/
theorem kind_foldl_addMembers (type : TypeDef) (bodies : List TypeBody) :
    (bodies.foldl addMembers type).kind = type.kind := by
  induction bodies generalizing type with
  | nil => rfl
  | cons body rest ih => rw [List.foldl_cons, ih, kind_addMembers]

theorem foldl_addMembers_of_not_extendable {bodies : List TypeBody}
    (h : ∀ body ∈ bodies, TypeKind.ofBody body ∉ TypeKind.extendable) (type : TypeDef) :
    bodies.foldl addMembers type = type := by
  induction bodies with
  | nil => rfl
  | cons body rest ih =>
      obtain ⟨hbody, hrest⟩ := List.forall_mem_cons.mp h
      rw [List.foldl_cons, TypeBody.addMembers_of_not_extendable hbody, ih hrest]

end TypeDef

/-! ## The types of a schema -/

namespace Schema

variable {definitions : List Definition} {schema : Schema} {name : String}

/-- The body of the definition of a type, if it is defined, and those of its extensions, in order.
-/
def bodies (name : String) (definitions : List Definition) : List TypeBody :=
  ((definitions.filterMap Definition.type?).find? (·.name.text = name)).toList.map
    TypeDefinition.body ++ extensions name definitions

/-- Extensions of a type that is not defined add nothing. -/
theorem not_extendable_of_ofDefinitions (h : ofDefinitions definitions = .ok schema)
    (hname : name ∉ typeNames definitions) :
    ∀ body ∈ extensions name definitions, TypeKind.ofBody body ∉ TypeKind.extendable := by
  have hfailure := (settles_ofDefinitions definitions).exists_ok_iff.mp ⟨schema, h⟩
  simp only [failure?, Option.orElse_eq_orElse, Option.orElse_eq_or,
    Option.or_eq_none_iff] at hfailure
  intro body hbody hkind
  obtain ⟨definition, hmem, hbody⟩ := List.mem_filterMap.mp hbody
  have hnone := List.findSome?_eq_none_iff.mp hfailure.2.1 definition hmem
  cases definition with
  | extendType extension =>
      simp only [Definition.extensionOf?, Option.ite_none_right_eq_some,
        Option.some.injEq] at hbody
      obtain ⟨rfl, rfl⟩ := hbody
      simp [unknownExtension?, hkind, hname] at hnone
  | operation | fragment | schema | directive | type | extendSchema => cases hbody

/-- A type of a schema is the one that is defined under its name, or a built-in scalar. -/
theorem type?_eq_some_cases (h : ofDefinitions definitions = .ok schema) {type : TypeDef}
    (htype : schema.type? name = some type) :
    (∃ definition, (definitions.filterMap Definition.type?).find? (·.name.text = name) =
        some definition ∧
        type = (extensions name definitions).foldl TypeDef.addMembers (.ofDefinition definition)) ∨
      (name ∉ typeNames definitions ∧ type = .bare name .scalar none) := by
  rw [type?_of_ofDefinitions h, declaredType?] at htype
  cases hfound : (definitions.filterMap Definition.type?).find? (·.name.text = name) with
  | some definition =>
      rw [hfound] at htype
      exact .inl ⟨definition, rfl, (Option.some.inj htype).symm⟩
  | none =>
      rw [hfound] at htype
      obtain ⟨scalar, hscalar, rfl⟩ := Option.map_eq_some_iff.mp htype
      have hname : scalar = name := by simpa using List.find?_some hscalar
      subst hname
      refine .inr ⟨fun hmem ↦ ?_, rfl⟩
      obtain ⟨definition, hmem, hname⟩ := List.mem_map.mp hmem
      have hother := List.find?_eq_none.mp hfound definition hmem
      simp [hname] at hother

/-- The three tables of every type of a schema hold what its definition and its extensions give,
whatever its kind. The tables that do not go with its kind are empty exactly if no extension has
members of another kind of type. -/
theorem members_of_ofDefinitions (h : ofDefinitions definitions = .ok schema) {type : TypeDef}
    (htype : schema.type? name = some type) :
    type.HasMembers (bodies name definitions) ∧
      (type.Fits ↔ ∀ body ∈ extensions name definitions, body.Suits type.kind) := by
  rcases type?_eq_some_cases h htype with ⟨definition, hfound, rfl⟩ | ⟨hname, rfl⟩
  · have hbodies : bodies name definitions =
        [definition.body] ++ extensions name definitions := by
      rw [bodies, hfound]
      rfl
    have hmembers : (TypeDef.ofDefinition definition).HasMembers [definition.body] :=
      (TypeDef.hasMembers_bare _ _ _).addMembers definition.body
    have hall := hmembers.foldl_addMembers (extensions name definitions)
    rw [hbodies]
    refine ⟨hall, ?_⟩
    have hkind : ((extensions name definitions).foldl TypeDef.addMembers
        (.ofDefinition definition)).kind = .ofBody definition.body := by
      rw [TypeDef.kind_foldl_addMembers]
      exact TypeDef.kind_addMembers _ _
    rw [hall.fits_iff, List.singleton_append, List.forall_mem_cons, hkind]
    exact and_iff_right definition.body.suits_ofBody
  · have hextensions := not_extendable_of_ofDefinitions h hname
    have hbodies : bodies name definitions = extensions name definitions := by
      rw [bodies, find?_eq_none_of_not_mem hname]
      rfl
    have hall := (TypeDef.hasMembers_bare name .scalar none).foldl_addMembers
      (extensions name definitions)
    rw [TypeDef.foldl_addMembers_of_not_extendable hextensions, List.nil_append] at hall
    rw [hbodies]
    exact ⟨hall, hall.fits_iff⟩

/-- An object that is extended as an interface and as an input object: the one goes with its kind,
the other does not. -/
theorem members_of_ofDefinitions_object :
    let definitions := Definition.listOfText <|
      "type Query \x7b a: Int \x7d extend interface Query \x7b b: Int a: ID \x7d " ++
        "extend input Query \x7b c: Int \x7d"
    ∃ schema type, ofDefinitions definitions = .ok schema ∧ schema.type? "Query" = some type ∧
      type.HasMembers (bodies "Query" definitions) ∧ type.fields.keys = ["a", "b"] ∧
        type.inputFields.keys = ["c"] ∧ ¬ type.Fits := by
  intro definitions
  obtain ⟨hloads, hfound, hfields, hinputFields, hbad⟩ :
      failure? definitions = none ∧
        ((ofDefinitions definitions).toOption.bind (·.type? "Query")).map (·.kind) =
          some .object ∧
          ((bodies "Query" definitions).flatMap TypeBody.fieldDefinitions).map (·.name.text) =
            ["a", "b", "a"] ∧
            ((bodies "Query" definitions).flatMap TypeBody.inputFieldDefinitions).map
              (·.name.text) = ["c"] ∧
              (extensions "Query" definitions).any
                (fun body ↦ body.inputFieldDefinitions.isEmpty = false) = true := by
    decide +kernel
  obtain ⟨schema, hschema⟩ := (settles_ofDefinitions definitions).exists_ok_iff.mpr hloads
  rw [hschema] at hfound
  obtain ⟨type, htype, hkind⟩ := Option.map_eq_some_iff.mp hfound
  obtain ⟨hmembers, hfits⟩ := members_of_ofDefinitions hschema htype
  refine ⟨schema, type, hschema, htype, hmembers, ?_, ?_, ?_⟩
  · rw [hmembers.fields.keys, hfields]
    decide
  · rw [hmembers.inputFields.keys, hinputFields]
    decide
  · rw [hfits]
    intro hsuits
    obtain ⟨body, hbody, hempty⟩ := List.any_eq_true.mp hbad
    have hnone := (hsuits body hbody).inputFields (by rw [hkind]; decide)
    simp [hnone] at hempty

/-- An enum that is extended as an object: it has a field, which does not go with its kind. -/
theorem load_extended_enum :
    ∃ schema type,
      load "enum E \x7b A \x7d extend type E \x7b f: Int \x7d" = .ok schema ∧
        schema.type? "E" = some type ∧ type.kind = .enum ∧ type.fields.keys = ["f"] ∧
          ¬ type.Fits := by
  have hfound : ((load "enum E \x7b A \x7d extend type E \x7b f: Int \x7d").toOption.bind
      (·.type? "E")).any (fun type ↦ type.kind = .enum ∧ type.fields.keys = ["f"] ∧
        ¬ type.Fits) = true := by
    decide +kernel
  cases hschema : load "enum E \x7b A \x7d extend type E \x7b f: Int \x7d" with
  | error cause =>
      rw [hschema] at hfound
      cases hfound
  | ok schema =>
      rw [hschema] at hfound
      obtain ⟨type, htype, hgood⟩ := (Option.any_eq_true _ _).mp hfound
      exact ⟨schema, type, rfl, htype, of_decide_eq_true hgood⟩

end Schema

end QueryLint
