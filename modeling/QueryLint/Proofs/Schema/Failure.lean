import QueryLint.Proofs.Schema.Declarations

/-!
# Why definitions define no schema

Main statement: `Schema.ofDefinitions_eq_error_iff`. Definitions fail with the first repetition of a
name, else with the first extension of a type that they do not define, else with the first root type
that there is not; they define a schema if there is none of these.

All three are read off the names in the definitions. A draft in the making has the names of the
definitions so far (`Draft.Names`), so each step fails as they tell (`Draft.settles_define`,
`Draft.settles_extend`, `Draft.settles_finish`).
-/

namespace QueryLint

open QueryLint.Language

/-! ## Names in definitions -/

namespace Language.Definition

/-- The type that is defined. -/
def type? : Definition → Option TypeDefinition
  | .type definition => some definition
  | _ => none

/-- The directive that is defined. -/
def directive? : Definition → Option DirectiveDefinition
  | .directive definition => some definition
  | _ => none

/-- The schema definition that a definition is. -/
def schema? : Definition → Option SchemaDefinition
  | .schema definition => some definition
  | _ => none

/-- The definitions of a text; none if it cannot be read. -/
def listOfText (text : String) : List Definition :=
  (Document.read text).toOption.elim [] (·.definitions)

end Language.Definition

/-- The names of the root types that a schema definition gives. -/
def Language.SchemaDefinition.rootNames (definition : SchemaDefinition) : List String :=
  definition.roots.filterMap fun root ↦ root.type.map (·.text)

/-- All root types are among some names. -/
def Roots.Among (names : List String) (roots : Roots) : Prop :=
  ∀ kind name, roots.get kind = some name → name ∈ names

theorem Roots.among_none (names : List String) : Roots.none.Among names := by
  intro kind name hname
  cases kind <;> cases hname

theorem Roots.Among.set {names : List String} {roots : Roots} (h : roots.Among names)
    (kind : OperationKind) {name : String} (hname : name ∈ names) :
    (roots.set kind (some name)).Among names := by
  intro other found hfound
  rw [Roots.get_set] at hfound
  split at hfound
  · cases hfound
    exact hname
  · exact h other found hfound

/-- The kinds of type whose members can be extended. -/
def TypeKind.extendable : List TypeKind := [.object, .interface, .enum, .inputObject]

namespace Schema

/-- The names of the types that are defined, in order. -/
def typeNames (definitions : List Definition) : List String :=
  (definitions.filterMap Definition.type?).map (·.name.text)

/-- The names of the directives that are defined, in order. -/
def directiveNames (definitions : List Definition) : List String :=
  (definitions.filterMap Definition.directive?).map (·.name.text)

/-- The names of the root types that all schema definitions give, in order. -/
def rootNames (definitions : List Definition) : List String :=
  (definitions.filterMap Definition.schema?).flatMap SchemaDefinition.rootNames

variable (definitions : List Definition) (definition : Definition)

theorem typeNames_concat :
    typeNames (definitions ++ [definition]) =
      typeNames definitions ++ definition.type?.toList.map (·.name.text) := by
  cases h : definition.type? <;> simp [typeNames, h]

theorem directiveNames_concat :
    directiveNames (definitions ++ [definition]) =
      directiveNames definitions ++ definition.directive?.toList.map (·.name.text) := by
  cases h : definition.directive? <;> simp [directiveNames, h]

theorem rootNames_concat :
    rootNames (definitions ++ [definition]) =
      rootNames definitions ++ definition.schema?.toList.flatMap SchemaDefinition.rootNames := by
  cases h : definition.schema? <;> simp [rootNames, h]

/-! ## Failures -/

/-- The error of a definition whose name is that of a type or a directive defined before. -/
def repetition? (before : List Definition) : Definition → Option LoadError
  | .type definition =>
    if definition.name.text ∈ typeNames before then some (.duplicateType definition.name.text)
    else none
  | .directive definition =>
    if definition.name.text ∈ directiveNames before then
      some (.duplicateDirective definition.name.text)
    else none
  | _ => none

/-- The error of an extension that adds members to a type that is not among those known. -/
def unknownExtension? (known : List String) : Definition → Option LoadError
  | .extendType extension =>
    if TypeKind.ofBody extension.body ∈ TypeKind.extendable ∧ extension.name.text ∉ known then
      some (.unknownExtendedType extension.name.text)
    else none
  | _ => none

/-- The error of the first root type that is not among those known. -/
def unknownRoot? (known : List String) (roots : List String) : Option LoadError :=
  (roots.find? (· ∉ known)).map .unknownRootType

/-- The error that definitions fail with. -/
def failure? (definitions : List Definition) : Option LoadError :=
  firstError? repetition? definitions <|>
    definitions.findSome? (unknownExtension? (typeNames definitions)) <|>
    unknownRoot? (typeNames definitions ++ builtinScalars) (rootNames definitions)

/-- Nothing is repeated if the names of the types differ and so do those of the directives. -/
theorem firstError?_repetition?_eq_none_iff (definitions : List Definition) :
    firstError? repetition? definitions = none ↔
      (typeNames definitions).Nodup ∧ (directiveNames definitions).Nodup := by
  induction definitions using List.reverseRecOn with
  | nil => simp [firstError?, typeNames, directiveNames]
  | append_singleton rest definition ih =>
      rw [firstError?_concat, typeNames_concat, directiveNames_concat]
      cases definition with
      | type definition =>
          have hnodup := List.nodup_concat (typeNames rest) definition.name.text
          rw [List.concat_eq_append] at hnodup
          by_cases hname : definition.name.text ∈ typeNames rest <;>
            simp [hname, hnodup, repetition?, Definition.type?, Definition.directive?, ih]
      | directive definition =>
          have hnodup := List.nodup_concat (directiveNames rest) definition.name.text
          rw [List.concat_eq_append] at hnodup
          by_cases hname : definition.name.text ∈ directiveNames rest <;>
            simp [hname, hnodup, repetition?, Definition.type?, Definition.directive?, ih]
      | operation | fragment | schema | extendSchema | extendType =>
          simp [repetition?, Definition.type?, Definition.directive?, ih]

/-! ## Names in drafts -/

namespace Draft

/-- A draft has the names that definitions define. -/
structure Names (definitions : List Definition) (draft : Draft) : Prop where
  types : draft.types.keys = typeNames definitions
  directives : draft.directives.keys = directiveNames definitions
  roots : (draft.roots.getD []).map Prod.snd = rootNames definitions

variable {definitions : List Definition} {draft : Draft}

theorem names_empty : Names [] empty := ⟨rfl, rfl, rfl⟩

/-- What a definition defines is added to the names. -/
theorem Names.concat (h : draft.Names definitions) {definition : Definition} {next : Draft}
    (htypes : next.types.keys = draft.types.keys ++ definition.type?.toList.map (·.name.text))
    (hdirectives : next.directives.keys =
      draft.directives.keys ++ definition.directive?.toList.map (·.name.text))
    (hroots : (next.roots.getD []).map Prod.snd =
      (draft.roots.getD []).map Prod.snd ++
        definition.schema?.toList.flatMap SchemaDefinition.rootNames) :
    next.Names (definitions ++ [definition]) where
  types := by rw [htypes, h.types, typeNames_concat]
  directives := by rw [hdirectives, h.directives, directiveNames_concat]
  roots := by rw [hroots, h.roots, rootNames_concat]

/-- A definition fails if it repeats a name, and adds its name otherwise. -/
theorem settles_define (h : draft.Names definitions) (definition : Definition) :
    Settles (Names (definitions ++ [definition])) (repetition? definitions definition)
      (draft.define definition) := by
  cases definition with
  | type definition =>
      have hknown := Table.contains_iff draft.types definition.name.text
      rw [h.types] at hknown
      by_cases hname : definition.name.text ∈ typeNames definitions
      · simp only [repetition?, define, if_pos hname, if_pos (hknown.mpr hname)]
        exact .failed _
      · simp only [repetition?, define, if_neg hname, if_neg (mt hknown.mp hname)]
        refine .finished (h.concat ?_ (List.append_nil _).symm (List.append_nil _).symm)
        rw [Table.keys_insert, h.types, if_neg hname]
        rfl
  | directive definition =>
      have hknown := Table.contains_iff draft.directives definition.name.text
      rw [h.directives] at hknown
      by_cases hname : definition.name.text ∈ directiveNames definitions
      · simp only [repetition?, define, if_pos hname, if_pos (hknown.mpr hname)]
        exact .failed _
      · simp only [repetition?, define, if_neg hname, if_neg (mt hknown.mp hname)]
        refine .finished (h.concat (List.append_nil _).symm ?_ (List.append_nil _).symm)
        rw [Table.keys_insert, h.directives, if_neg hname]
        rfl
  | schema definition =>
      refine .finished (h.concat (List.append_nil _).symm (List.append_nil _).symm ?_)
      simp [Definition.schema?, SchemaDefinition.rootNames, rootEntries, List.map_filterMap,
        Function.comp_def]
  | operation | fragment | extendSchema | extendType =>
      exact .finished (h.concat (List.append_nil _).symm (List.append_nil _).symm
        (List.append_nil _).symm)

theorem extendsMembers_iff (body : TypeBody) :
    extendsMembers body = true ↔ TypeKind.ofBody body ∈ TypeKind.extendable := by
  cases body <;> simp [extendsMembers, TypeKind.ofBody, TypeKind.extendable]

/-- An extension fails if there is no type to extend, and adds no name otherwise. -/
theorem settles_extend (h : draft.Names definitions) (definition : Definition) :
    Settles (Names definitions) (unknownExtension? (typeNames definitions) definition)
      (draft.extend definition) := by
  cases definition with
  | extendType extension =>
      simp only [extend, unknownExtension?, ← extendsMembers_iff, ← h.types, Table.mem_keys_iff]
      cases extendsMembers extension.body with
      | false => exact .finished h
      | true =>
          cases htype : draft.types.get? extension.name.text with
          | none =>
              simp only [Option.isSome_none, Bool.false_eq_true, not_false_eq_true, and_self,
                if_true]
              exact .failed _
          | some type =>
              simp only [Option.isSome_some, not_true_eq_false, and_false, if_false, if_true]
              refine .finished ⟨?_, h.directives, h.roots⟩
              have hkey : extension.name.text ∈ draft.types.keys := by
                rw [Table.mem_keys_iff, htype, Option.isSome_some]
              rw [Table.keys_insert, if_pos hkey, h.types]
  | operation | fragment | schema | directive | type | extendSchema => exact .finished h

/-! ## Completion -/

/-- Built-in scalars that are defined keep their place, and the others come last. -/
theorem Names.keys_completeTypes (h : draft.Names definitions) :
    draft.completeTypes.keys =
      typeNames definitions ++ builtinScalars.filter (· ∉ typeNames definitions) := by
  have hnodup : (builtinScalars.map id).Nodup := by decide
  have hkeys := Table.keys_foldl_insertNew id (.bare · .scalar none) hnodup draft.types
  rw [List.map_id, h.types] at hkeys
  exact hkeys

/-- Built-in directives that are defined keep their place, and the others come last. -/
theorem Names.keys_completeDirectives (h : draft.Names definitions) :
    draft.completeDirectives.keys =
      directiveNames definitions ++
        (builtinDirectives.map (·.name)).filter (· ∉ directiveNames definitions) := by
  have hnodup : (builtinDirectives.map (·.name)).Nodup := by decide
  have hkeys := Table.keys_foldl_insertNew DirectiveDef.name id hnodup draft.directives
  rw [h.directives] at hkeys
  exact hkeys

/-- Entries fail with the first root type that there is not. -/
theorem settles_declaredRoots {types : Table TypeDef} {roots : Roots}
    (h : roots.Among types.keys) (entries : List (OperationKind × String)) :
    Settles (Roots.Among types.keys) (unknownRoot? types.keys (entries.map Prod.snd))
      (declaredRoots types roots entries) := by
  induction entries generalizing roots with
  | nil => exact .finished h
  | cons entry rest ih =>
      obtain ⟨kind, name⟩ := entry
      simp only [declaredRoots, unknownRoot?, Table.contains_iff, List.map_cons, List.find?_cons]
      by_cases hname : name ∈ types.keys
      · simp only [hname, not_true_eq_false, decide_false, if_true]
        exact ih (h.set kind hname)
      · simp only [hname, not_false_eq_true, decide_true, if_false]
        exact .failed _

theorem customaryRoots_among (types : Table TypeDef) : (customaryRoots types).Among types.keys := by
  intro kind name hname
  cases kind <;>
  · simp only [customaryRoots, Roots.get, Option.ite_none_right_eq_some, Option.some.injEq] at hname
    obtain ⟨hcontains, rfl⟩ := hname
    exact (Table.contains_iff types _).mp hcontains

theorem unknownRoot?_congr {known other : List String} (h : ∀ name, name ∈ known ↔ name ∈ other)
    (roots : List String) : unknownRoot? known roots = unknownRoot? other roots := by
  simp only [unknownRoot?, h]

/-- A draft fails with the first root type that is neither defined nor a built-in scalar. -/
theorem settles_chosenRoots (h : draft.Names definitions) :
    Settles (Roots.Among draft.completeTypes.keys)
      (unknownRoot? (typeNames definitions ++ builtinScalars) (rootNames definitions))
      draft.chosenRoots := by
  have hknown : ∀ name, name ∈ typeNames definitions ++ builtinScalars ↔
      name ∈ draft.completeTypes.keys := by
    intro name
    rw [h.keys_completeTypes]
    by_cases hname : name ∈ typeNames definitions <;> simp [hname]
  rw [unknownRoot?_congr hknown, ← h.roots]
  unfold chosenRoots
  cases draft.roots with
  | none => exact .finished (customaryRoots_among _)
  | some entries => exact settles_declaredRoots (Roots.among_none _) entries

end Draft

/-! ## Definitions -/

/-- The types and the directives of a schema stand in the order of their definitions, with the
built-in ones that are not defined at the end. Its root types are among its types. -/
structure Lists (definitions : List Definition) (schema : Schema) : Prop where
  types : schema.types.keys =
    typeNames definitions ++ builtinScalars.filter (· ∉ typeNames definitions)
  directives : schema.directives.keys =
    directiveNames definitions ++
      (builtinDirectives.map (·.name)).filter (· ∉ directiveNames definitions)
  roots : schema.roots.Among schema.types.keys

theorem settles_ofDefinitions (definitions : List Definition) :
    Settles (Lists definitions) (failure? definitions) (ofDefinitions definitions) := by
  unfold ofDefinitions failure?
  have hdefined : Settles (Draft.Names definitions) (firstError? repetition? definitions)
      (definitions.foldlM Draft.define .empty) :=
    .foldlM Draft.Names (fun _ definition _ h ↦ Draft.settles_define h definition)
      Draft.names_empty
  refine hdefined.bind fun defined hdefined ↦ ?_
  have hextended : Settles (Draft.Names definitions)
      (definitions.findSome? (unknownExtension? (typeNames definitions)))
      (definitions.foldlM Draft.extend defined) := by
    rw [← firstError?_const]
    exact .foldlM (fun _ ↦ Draft.Names definitions)
      (fun _ definition _ h ↦ Draft.settles_extend h definition) hdefined
  refine hextended.bind fun extended hextended ↦ ?_
  rw [Draft.finish_eq_map_chosenRoots]
  exact (Draft.settles_chosenRoots hextended).map fun roots hroots ↦
    ⟨hextended.keys_completeTypes, hextended.keys_completeDirectives, hroots⟩

/-- Definitions fail with the first type or directive that repeats a name; if there is none, with
the first extension that adds members to a type that they do not define; if there is none either,
with the first root type that is neither defined nor a built-in scalar. Otherwise they define a
schema. -/
theorem ofDefinitions_eq_error_iff (definitions : List Definition) :
    (∀ error, ofDefinitions definitions = .error error ↔ failure? definitions = some error) ∧
      ((∃ schema, ofDefinitions definitions = .ok schema) ↔ failure? definitions = none) :=
  ⟨(settles_ofDefinitions definitions).eq_error_iff,
    (settles_ofDefinitions definitions).exists_ok_iff⟩

-- A repetition is found before an extension of an unknown type that stands further up.
example :
    failure? (Definition.listOfText <|
      "extend type T \x7b a: Int \x7d directive @S on FIELD " ++ "scalar S scalar S scalar S") =
      some (.duplicateType "S") := by
  decide +kernel

end Schema

end QueryLint
