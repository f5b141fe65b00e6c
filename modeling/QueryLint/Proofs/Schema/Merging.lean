import QueryLint.Proofs.Schema.Contents

/-!
# Types in one piece

Main statement: `Schema.ofDefinitions_mergeExtensions`. A type whose members are spread over its
definition and extensions is the same as one whose definition has them all, one after the other.

The members of a body are collected in a table before they are added to a type. To add those of two
bodies is to add those of both together (`TypeDef.addMembers_append`), so a definition with all
members declares what it declares with its extensions (`TypeDef.ofDefinition_extendedBy`). Which
members these are, body after body, is told by `TypeDef.HasMembers.addMembers`.
-/

namespace QueryLint

open QueryLint.Language

/-! ## Bodies put together -/

namespace Language.TypeBody

/-- A body with the members of another one of its kind after its own. -/
def append : TypeBody → TypeBody → TypeBody
  | .object interfaces fields, .object moreInterfaces moreFields =>
    .object (interfaces ++ moreInterfaces) (fields ++ moreFields)
  | .interface interfaces fields, .interface moreInterfaces moreFields =>
    .interface (interfaces ++ moreInterfaces) (fields ++ moreFields)
  | .union members, .union more => .union (members ++ more)
  | .enum values, .enum more => .enum (values ++ more)
  | .input fields, .input more => .input (fields ++ more)
  | body, _ => body

/-- The definitions of fields in a body. -/
def fieldDefinitions : TypeBody → List FieldDefinition
  | .object _ fields | .interface _ fields => fields
  | .scalar | .union _ | .enum _ | .input _ => []

/-- The definitions of enum values in a body. -/
def enumValueDefinitions : TypeBody → List EnumValueDefinition
  | .enum values => values
  | .scalar | .object _ _ | .interface _ _ | .union _ | .input _ => []

/-- The definitions of input fields in a body. -/
def inputFieldDefinitions : TypeBody → List InputValueDefinition
  | .input fields => fields
  | .scalar | .object _ _ | .interface _ _ | .union _ | .enum _ => []

end Language.TypeBody

theorem TypeKind.ofBody_append (body more : TypeBody) :
    ofBody (body.append more) = ofBody body := by
  cases body <;> cases more <;> rfl

namespace TypeDef

/-- The members of two bodies are added one after the other or together. -/
theorem addMembers_append (type : TypeDef) {body more : TypeBody}
    (h : TypeKind.ofBody more = TypeKind.ofBody body) :
    type.addMembers (body.append more) = (type.addMembers body).addMembers more := by
  -- Bodies of two kinds are excluded.
  cases body <;> cases more <;> simp only [TypeKind.ofBody, reduceCtorEq] at h
  all_goals
    simp [TypeBody.append, addMembers, FieldDef.tableOf, EnumValueDef.tableOf,
      InputValueDef.tableOf, Table.insertAll_ofList_append]

theorem addMembers_foldl_append (type : TypeDef) {body : TypeBody} {bodies : List TypeBody}
    (h : ∀ more ∈ bodies, TypeKind.ofBody more = TypeKind.ofBody body) :
    type.addMembers (bodies.foldl TypeBody.append body) =
      bodies.foldl addMembers (type.addMembers body) := by
  induction bodies generalizing body with
  | nil => rfl
  | cons more rest ih =>
      obtain ⟨hmore, hrest⟩ := List.forall_mem_cons.mp h
      rw [List.foldl_cons, List.foldl_cons, ← addMembers_append type hmore]
      refine ih fun later hlater ↦ ?_
      rw [TypeKind.ofBody_append]
      exact hrest later hlater

end TypeDef

/-- A definition with the members of further bodies after its own. -/
def Language.TypeDefinition.extendedBy (definition : TypeDefinition) (bodies : List TypeBody) :
    TypeDefinition :=
  { definition with body := bodies.foldl .append definition.body }

theorem TypeKind.ofBody_foldl_append (body : TypeBody) (bodies : List TypeBody) :
    ofBody (bodies.foldl TypeBody.append body) = ofBody body := by
  induction bodies generalizing body with
  | nil => rfl
  | cons more rest ih => rw [List.foldl_cons, ih, ofBody_append]

/-- A definition with the members of its extensions declares what it declares with these. -/
theorem TypeDef.ofDefinition_extendedBy {definition : TypeDefinition} {bodies : List TypeBody}
    (h : ∀ body ∈ bodies, TypeKind.ofBody body = TypeKind.ofBody definition.body) :
    ofDefinition (definition.extendedBy bodies) =
      bodies.foldl addMembers (ofDefinition definition) := by
  unfold ofDefinition TypeDefinition.extendedBy
  rw [TypeKind.ofBody_foldl_append, addMembers_foldl_append _ h]

/-! ## Members of several bodies -/

namespace TypeDef

/-- A type has the members of some bodies: each name stands where it is given first, with what is
given under it last. -/
structure HasMembers (bodies : List TypeBody) (type : TypeDef) : Prop where
  fields : type.fields.Collects (·.name.text) FieldDef.ofDefinition
    (bodies.flatMap TypeBody.fieldDefinitions)
  inputFields : type.inputFields.Collects (·.name.text) InputValueDef.ofDefinition
    (bodies.flatMap TypeBody.inputFieldDefinitions)
  enumValues : type.enumValues.Collects (·.name.text) EnumValueDef.ofDefinition
    (bodies.flatMap TypeBody.enumValueDefinitions)

theorem hasMembers_bare (name : String) (kind : TypeKind) (description : Option String) :
    (bare name kind description).HasMembers [] :=
  ⟨Table.collects_ofList _ _ [], Table.collects_ofList _ _ [], Table.collects_ofList _ _ []⟩

theorem HasMembers.addMembers {bodies : List TypeBody} {type : TypeDef} (h : type.HasMembers bodies)
    (body : TypeBody) : (type.addMembers body).HasMembers (bodies ++ [body]) := by
  obtain ⟨hfields, hinputFields, henumValues⟩ := h
  -- Only the table of the members that the body can have is changed.
  constructor <;> rw [List.flatMap_append, List.flatMap_singleton]
  · cases body with
    | object interfaces fields | interface interfaces fields => exact hfields.insertAll fields
    | scalar | union | enum | input => exact (List.append_nil _).symm ▸ hfields
  · cases body with
    | input fields => exact hinputFields.insertAll fields
    | scalar | object | interface | union | enum => exact (List.append_nil _).symm ▸ hinputFields
  · cases body with
    | enum values => exact henumValues.insertAll values
    | scalar | object | interface | union | input => exact (List.append_nil _).symm ▸ henumValues

theorem HasMembers.foldl_addMembers {bodies : List TypeBody} {type : TypeDef}
    (h : type.HasMembers bodies) (more : List TypeBody) :
    (more.foldl TypeDef.addMembers type).HasMembers (bodies ++ more) := by
  induction more generalizing bodies type with
  | nil => simpa using h
  | cons body rest ih =>
      rw [List.foldl_cons, List.append_cons]
      exact ih (h.addMembers body)

end TypeDef

/-! ## Definitions put together -/

/-- The definition of a type with its extensions put in, and without them where they stood. -/
def Language.Definition.merge? (name : String) (bodies : List TypeBody) :
    Definition → Option Definition
  | .type definition =>
    some (.type (if definition.name.text = name then definition.extendedBy bodies else definition))
  | .extendType extension =>
    if extension.name.text = name then none else some (.extendType extension)
  | other => some other

namespace Schema

/-- Definitions with all extensions of a type merged into its definition, in their order. -/
def mergeExtensions (name : String) (definitions : List Definition) : List Definition :=
  definitions.filterMap (Definition.merge? name (extensions name definitions))

variable {name : String} {definitions : List Definition}

/-- What is read off each definition as before is read off all of them as before. -/
theorem filterMap_mergeExtensions {α : Type} {get read : Definition → Option α}
    (h : ∀ definition, (definition.merge? name (extensions name definitions)).bind get =
      read definition) :
    (mergeExtensions name definitions).filterMap get = definitions.filterMap read := by
  rw [mergeExtensions, List.filterMap_filterMap]
  exact List.filterMap_congr fun definition _ ↦ h definition

theorem bind_merge?_extendType {α : Type} {get : Definition → Option α}
    (h : ∀ extension, get (.extendType extension) = none) (extension : TypeDefinition) :
    ((Definition.extendType extension).merge? name (extensions name definitions)).bind get =
      none := by
  simp only [Definition.merge?]
  split
  · rfl
  · exact h extension

theorem filterMap_type?_mergeExtensions (name : String) (definitions : List Definition) :
    (mergeExtensions name definitions).filterMap Definition.type? =
      (definitions.filterMap Definition.type?).map fun definition ↦
        if definition.name.text = name then definition.extendedBy (extensions name definitions)
        else definition := by
  rw [List.map_filterMap]
  refine filterMap_mergeExtensions fun definition ↦ ?_
  cases definition with
  | extendType extension => exact bind_merge?_extendType (fun _ ↦ rfl) extension
  | operation | fragment | schema | directive | type | extendSchema => rfl

/-- What is not read off types or extensions is not changed. -/
theorem filterMap_mergeExtensions_eq {α : Type} {get : Definition → Option α}
    (htype : ∀ definition, get (.type definition) = none)
    (hextension : ∀ extension, get (.extendType extension) = none) :
    (mergeExtensions name definitions).filterMap get = definitions.filterMap get := by
  refine filterMap_mergeExtensions fun definition ↦ ?_
  cases definition with
  | type definition =>
      rw [htype]
      exact htype _
  | extendType extension =>
      rw [hextension]
      exact bind_merge?_extendType hextension extension
  | operation | fragment | schema | directive | extendSchema => rfl

theorem extensions_mergeExtensions (name other : String) (definitions : List Definition) :
    extensions other (mergeExtensions name definitions) =
      if other = name then [] else extensions other definitions := by
  have hread : extensions other (mergeExtensions name definitions) =
      definitions.filterMap fun definition ↦
        if other = name then none else definition.extensionOf? other := by
    refine filterMap_mergeExtensions fun definition ↦ ?_
    cases definition with
    | extendType extension =>
        simp only [Definition.merge?, Definition.extensionOf?]
        by_cases hname : extension.name.text = name
        · by_cases hother : other = name
          · simp [hname, hother]
          · have hne : ¬ name = other := fun e ↦ hother e.symm
            simp [hname, hother, hne]
        · by_cases hother : other = name
          · subst hother
            simp [hname, Definition.extensionOf?]
          · simp [hname, hother, Definition.extensionOf?]
    | operation | fragment | schema | directive | type | extendSchema =>
        simp [Definition.merge?, Definition.extensionOf?]
  rw [hread]
  by_cases hother : other = name <;> simp [hother, extensions]

theorem typeNames_mergeExtensions (name : String) (definitions : List Definition) :
    typeNames (mergeExtensions name definitions) = typeNames definitions := by
  rw [typeNames, filterMap_type?_mergeExtensions, List.map_map]
  refine List.map_congr_left fun definition _ ↦ ?_
  simp only [Function.comp_apply]
  split <;> rfl

/-! ## The schema of definitions put together -/

/-- A type is declared as before: with the members of its extensions in its own definition if these
were put together. -/
theorem declaredType?_mergeExtensions
    (h : ∀ definition, .type definition ∈ definitions → definition.name.text = name →
      ∀ body ∈ extensions name definitions,
        TypeKind.ofBody body = TypeKind.ofBody definition.body) (other : String) :
    declaredType? (mergeExtensions name definitions) other = declaredType? definitions other := by
  rw [declaredType?, filterMap_type?_mergeExtensions, List.find?_map, extensions_mergeExtensions,
    declaredType?, Option.map_map]
  have hname : ((fun definition : TypeDefinition ↦ decide (definition.name.text = other)) ∘
      fun definition ↦ if definition.name.text = name then
        definition.extendedBy (extensions name definitions) else definition) =
      fun definition ↦ decide (definition.name.text = other) := by
    funext definition
    simp only [Function.comp_apply]
    split <;> rfl
  rw [hname]
  refine Option.map_congr fun definition hfound ↦ ?_
  have hmem := mem_filterMap_type?.mp (List.mem_of_find?_eq_some hfound)
  have hother : definition.name.text = other := by simpa using List.find?_some hfound
  by_cases hsame : other = name
  · subst hsame
    simp only [Function.comp_apply, if_pos hother, if_true, List.foldl_nil]
    exact TypeDef.ofDefinition_extendedBy (h definition hmem hother)
  · rw [Function.comp_apply, if_neg hsame, if_neg (hother ▸ hsame)]

/-- Definitions that do not fail do not fail with extensions put into a definition either. -/
theorem failure?_mergeExtensions (name : String) (h : failure? definitions = none) :
    failure? (mergeExtensions name definitions) = none := by
  simp only [failure?, Option.orElse_eq_orElse, Option.orElse_eq_or, Option.or_eq_none_iff] at h ⊢
  obtain ⟨hrepetition, hextension, hroot⟩ := h
  refine ⟨?_, ?_, ?_⟩
  · rw [firstError?_repetition?_eq_none_iff] at hrepetition ⊢
    rw [typeNames_mergeExtensions, directiveNames,
      filterMap_mergeExtensions_eq (fun _ ↦ rfl) fun _ ↦ rfl]
    exact hrepetition
  · rw [typeNames_mergeExtensions, List.findSome?_eq_none_iff]
    intro merged hmerged
    obtain ⟨definition, hmem, hmerge⟩ := List.mem_filterMap.mp hmerged
    have hnone := List.findSome?_eq_none_iff.mp hextension definition hmem
    cases definition with
    | type definition =>
        cases hmerge
        rfl
    | extendType extension =>
        simp only [Definition.merge?, Option.ite_none_left_eq_some, Option.some.injEq] at hmerge
        rw [← hmerge.2]
        exact hnone
    | operation | fragment | schema | directive | extendSchema =>
        cases hmerge
        rfl
  · rw [typeNames_mergeExtensions, rootNames,
      filterMap_mergeExtensions_eq (fun _ ↦ rfl) fun _ ↦ rfl]
    exact hroot

/-- Definitions that declare the same define the same schema. -/
theorem ofDefinitions_congr {others : List Definition}
    (h : Declaration.ofDefinitions definitions = Declaration.ofDefinitions others) :
    ofDefinitions definitions = ofDefinitions others := by
  simp only [ofDefinitions, foldlM_ofDefinitions Draft.define_eq_declare,
    foldlM_ofDefinitions Draft.extend_eq_amend, h]

/-- A type whose extensions are all of its own kind can be defined in one piece. Definitions that
declare the members of its definition and then those of its extensions in one definition define the
same schema. Its type has all these members: each name stands where it is given first, with what is
given under it last. -/
theorem ofDefinitions_mergeExtensions {schema : Schema} {definition : TypeDefinition}
    (h : ofDefinitions definitions = .ok schema) (hmem : .type definition ∈ definitions)
    (hkinds : ∀ body ∈ extensions definition.name.text definitions,
      TypeKind.ofBody body = TypeKind.ofBody definition.body) :
    (∀ merged, Declaration.ofDefinitions merged =
        Declaration.ofDefinitions (mergeExtensions definition.name.text definitions) →
      ofDefinitions merged = .ok schema) ∧
      ∃ type, schema.type? definition.name.text = some type ∧
        type.HasMembers (definition.body :: extensions definition.name.text definitions) := by
  constructor
  · intro merged hmerged
    have hnone := (settles_ofDefinitions definitions).exists_ok_iff.mp ⟨schema, h⟩
    obtain ⟨other, hother⟩ := (settles_ofDefinitions _).exists_ok_iff.mpr
      (failure?_mergeExtensions definition.name.text hnone)
    have hdeclared : ∀ name,
        declaredType? (mergeExtensions definition.name.text definitions) name =
          declaredType? definitions name := by
      refine declaredType?_mergeExtensions fun found hfound hname ↦ ?_
      -- There is one definition of the name.
      have hsame : found = definition :=
        List.inj_on_of_nodup_map (nodup_of_ofDefinitions h).1 (mem_filterMap_type?.mpr hfound)
          (mem_filterMap_type?.mpr hmem) hname
      rw [hsame]
      exact hkinds
    have hschemas : other = schema :=
      eq_of_ofDefinitions hother h (typeNames_mergeExtensions _ _) hdeclared
        (filterMap_mergeExtensions_eq (fun _ ↦ rfl) fun _ ↦ rfl)
        (filterMap_mergeExtensions_eq (fun _ ↦ rfl) fun _ ↦ rfl)
    rw [ofDefinitions_congr hmerged, hother, hschemas]
  · refine ⟨_, (holds_of_ofDefinitions h).type definition hmem, ?_⟩
    exact ((TypeDef.hasMembers_bare _ _ _).addMembers definition.body).foldl_addMembers _

/-- A definition between two of its extensions, both of which repeat fields. -/
theorem ofDefinitions_mergeExtensions_repeated :
    let split := Definition.listOfText <|
      "extend type Query \x7b at: Int id: Int \x7d type Query \x7b id: ID! at: Float \x7d " ++
        "scalar Odd extend type Odd \x7b a: Int \x7d extend type Query \x7b to: Odd at: ID \x7d"
    let merged := Definition.listOfText <|
      "type Query \x7b id: ID! at: Float at: Int id: Int to: Odd at: ID \x7d " ++
        "scalar Odd extend type Odd \x7b a: Int \x7d"
    ∃ schema type, ofDefinitions split = .ok schema ∧ ofDefinitions merged = .ok schema ∧
      schema.type? "Query" = some type ∧ type.fields.keys = ["id", "at", "to"] := by
  intro split merged
  -- The texts are read once for all that is looked up in them.
  obtain ⟨hmerged, hloads, hfound, hkinds, hadded⟩ :
      Declaration.ofDefinitions merged =
          Declaration.ofDefinitions (mergeExtensions "Query" split) ∧
        failure? split = none ∧
          (split.filterMap Definition.type?).any (fun definition ↦
            definition.name.text = "Query" ∧ TypeKind.ofBody definition.body = .object ∧
              definition.body.fieldDefinitions.map (·.name.text) = ["id", "at"]) = true ∧
            (∀ body ∈ extensions "Query" split, TypeKind.ofBody body = .object) ∧
              ((extensions "Query" split).flatMap TypeBody.fieldDefinitions).map (·.name.text) =
                ["at", "id", "to", "at"] := by
    decide +kernel
  obtain ⟨schema, hschema⟩ := (settles_ofDefinitions split).exists_ok_iff.mpr hloads
  simp only [List.any_eq_true, mem_filterMap_type?, decide_eq_true_eq] at hfound
  obtain ⟨definition, hmem, hname, hkind, hfields⟩ := hfound
  rw [← hname] at hmerged hkinds hadded ⊢
  rw [← hkind] at hkinds
  obtain ⟨hsame, type, htype, hmembers⟩ := ofDefinitions_mergeExtensions hschema hmem hkinds
  refine ⟨schema, type, hschema, hsame merged hmerged, htype, ?_⟩
  rw [hmembers.fields.keys, List.flatMap_cons, List.map_append, hfields, hadded]
  decide

end Schema

end QueryLint
