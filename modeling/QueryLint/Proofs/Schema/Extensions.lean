import QueryLint.Proofs.Schema.Merging

/-!
# Which extensions are looked at

Main statement: `Schema.ofDefinitions_extendType`. An extension of an object, an interface, an enum
or an input object needs a definition of the type that it names. An extension of a union or a scalar
needs nothing and changes nothing, whatever it names.

Whether definitions define a schema can be told from the names in them
(`Schema.exists_ofDefinitions_iff`), so one more extension only adds the name of its type.
-/

namespace QueryLint

open QueryLint.Language

namespace Schema

/-- Definitions define a schema exactly if no type and no directive is defined twice, every type
whose members are extended is defined, and every root type is defined or a built-in scalar. -/
theorem exists_ofDefinitions_iff (definitions : List Definition) :
    (∃ schema, ofDefinitions definitions = .ok schema) ↔
      ((typeNames definitions).Nodup ∧ (directiveNames definitions).Nodup) ∧
        (∀ extension, .extendType extension ∈ definitions →
          TypeKind.ofBody extension.body ∈ TypeKind.extendable →
            extension.name.text ∈ typeNames definitions) ∧
          ∀ root ∈ rootNames definitions, root ∈ typeNames definitions ++ builtinScalars := by
  rw [(settles_ofDefinitions definitions).exists_ok_iff]
  simp only [failure?, Option.orElse_eq_orElse, Option.orElse_eq_or, Option.or_eq_none_iff,
    firstError?_repetition?_eq_none_iff, List.findSome?_eq_none_iff]
  have hextensions :
      (∀ definition ∈ definitions, unknownExtension? (typeNames definitions) definition = none) ↔
        ∀ extension, .extendType extension ∈ definitions →
          TypeKind.ofBody extension.body ∈ TypeKind.extendable →
            extension.name.text ∈ typeNames definitions := by
    constructor
    · intro hnone extension hmem hkind
      simpa [unknownExtension?, hkind] using hnone _ hmem
    · intro hknown definition hmem
      cases definition with
      | extendType extension => simpa [unknownExtension?] using hknown extension hmem
      | operation | fragment | schema | directive | type | extendSchema => rfl
  have hroots :
      unknownRoot? (typeNames definitions ++ builtinScalars) (rootNames definitions) = none ↔
        ∀ root ∈ rootNames definitions, root ∈ typeNames definitions ++ builtinScalars := by
    simp only [unknownRoot?, Option.map_eq_none_iff, List.find?_eq_none, decide_eq_true_eq,
      not_not]
  rw [hextensions, hroots]

/-- An extension of a union or a scalar declares nothing. -/
theorem ofDefinition?_extendType_eq_none {extension : TypeDefinition}
    (h : TypeKind.ofBody extension.body ∉ TypeKind.extendable) :
    Declaration.ofDefinition? (.extendType extension) = none := by
  simp only [Declaration.ofDefinition?]
  cases hbody : extension.body with
  | scalar | union => rfl
  | object | interface | enum | input =>
      simp [hbody, TypeKind.ofBody, TypeKind.extendable] at h

/-- What is not read off extensions is read off without them. -/
theorem filterMap_extendType {α : Type} {get : Definition → Option α}
    {extension : TypeDefinition} (h : get (.extendType extension) = none)
    (before after : List Definition) :
    (before ++ .extendType extension :: after).filterMap get =
      (before ++ after).filterMap get := by
  rw [List.filterMap_append, List.filterMap_cons_none h, List.filterMap_append]

/-- Wherever an extension of an object, an interface, an enum or an input object stands, there is a
schema exactly if there is one without it and the type that it names is defined; a built-in scalar
is not enough. An extension of a union or a scalar makes no difference, whatever it names. -/
theorem ofDefinitions_extendType (before after : List Definition) (extension : TypeDefinition) :
    (TypeKind.ofBody extension.body ∈ TypeKind.extendable →
        ((∃ schema, ofDefinitions (before ++ .extendType extension :: after) = .ok schema) ↔
          extension.name.text ∈ typeNames (before ++ after) ∧
            ∃ schema, ofDefinitions (before ++ after) = .ok schema)) ∧
      (TypeKind.ofBody extension.body ∉ TypeKind.extendable →
        ofDefinitions (before ++ .extendType extension :: after) =
          ofDefinitions (before ++ after)) := by
  constructor
  · intro hkind
    have htypes : typeNames (before ++ .extendType extension :: after) =
        typeNames (before ++ after) := by
      rw [typeNames, filterMap_extendType rfl, typeNames]
    have hdirectives : directiveNames (before ++ .extendType extension :: after) =
        directiveNames (before ++ after) := by
      rw [directiveNames, filterMap_extendType rfl, directiveNames]
    have hroots : rootNames (before ++ .extendType extension :: after) =
        rootNames (before ++ after) := by
      rw [rootNames, filterMap_extendType rfl, rootNames]
    have hmem (other : TypeDefinition) :
        .extendType other ∈ before ++ .extendType extension :: after ↔
          other = extension ∨ .extendType other ∈ before ++ after := by
      simp only [List.mem_append, List.mem_cons, Definition.extendType.injEq]
      tauto
    simp only [exists_ofDefinitions_iff, htypes, hdirectives, hroots, hmem, or_imp, forall_and,
      forall_eq, hkind, true_imp_iff]
    tauto
  · intro hkind
    have hnothing := ofDefinition?_extendType_eq_none hkind
    exact ofDefinitions_congr (filterMap_extendType hnothing before after)

/-- An enum that extends an object before it is defined, an input object that is not defined, and a
union that is not defined either. -/
theorem ofDefinitions_extendType_undefined :
    let definitions := Definition.listOfText "type Query \x7b a: Int \x7d"
    let extension (name : String) (body : TypeBody) : TypeDefinition :=
      ⟨none, ⟨name, default⟩, [], body⟩
    (∃ schema, ofDefinitions definitions = .ok schema) ∧
      (∃ schema, ofDefinitions (.extendType (extension "Query" (.enum [])) :: definitions) =
        .ok schema) ∧
        (¬ ∃ schema, ofDefinitions (definitions ++ [.extendType (extension "Int" (.input []))]) =
          .ok schema) ∧
          ofDefinitions (definitions ++ [.extendType (extension "Missing" (.union []))]) =
            ofDefinitions definitions := by
  intro definitions extension
  obtain ⟨hloads, hnames⟩ : failure? definitions = none ∧ typeNames definitions = ["Query"] := by
    decide +kernel
  -- No more than this is read off the definitions.
  clear_value definitions
  have hschema := (settles_ofDefinitions definitions).exists_ok_iff.mpr hloads
  have hdefined :=
    (ofDefinitions_extendType [] definitions (extension "Query" (.enum []))).1 (by decide)
  have hmissing :=
    (ofDefinitions_extendType definitions [] (extension "Int" (.input []))).1 (by decide)
  have hunion :=
    (ofDefinitions_extendType definitions [] (extension "Missing" (.union []))).2 (by decide)
  rw [List.nil_append, List.nil_append] at hdefined
  rw [List.append_nil] at hmissing hunion
  refine ⟨hschema, hdefined.mpr ⟨?_, hschema⟩, fun h ↦ ?_, hunion⟩
  · rw [hnames]
    decide
  · have hknown := (hmissing.mp h).1
    rw [hnames] at hknown
    exact absurd hknown (by decide)

/-- An extension of a union that is neither defined nor a built-in scalar is accepted. -/
theorem load_extended_unknown_union :
    ∃ document schema extension,
      Document.read "type Query \x7b a: Int \x7d extend union Missing = Query" = .ok document ∧
        load "type Query \x7b a: Int \x7d extend union Missing = Query" = .ok schema ∧
          .extendType extension ∈ document.definitions ∧
            extension.name.text ∉ typeNames document.definitions ++ builtinScalars := by
  have hfound : (Document.read
      "type Query \x7b a: Int \x7d extend union Missing = Query").toOption.any (fun document ↦
        failure? document.definitions = none ∧ typeNames document.definitions = ["Query"] ∧
          (extensions "Missing" document.definitions).isEmpty = false) = true := by
    decide +kernel
  obtain ⟨document, hread, hgood⟩ := (Option.any_eq_true _ _).mp hfound
  obtain ⟨hloads, hnames, hextension⟩ := of_decide_eq_true hgood
  rw [toOption_eq_some_iff] at hread
  obtain ⟨schema, hschema⟩ :=
    (settles_ofDefinitions document.definitions).exists_ok_iff.mpr hloads
  obtain ⟨body, hbody⟩ := List.isEmpty_eq_false_iff_exists_mem.mp hextension
  obtain ⟨definition, hmem, hname⟩ := List.mem_filterMap.mp hbody
  cases definition with
  | extendType extension =>
      refine ⟨document, schema, extension, hread, ?_, hmem, ?_⟩
      · rw [load, hread]
        exact hschema
      · simp only [Definition.extensionOf?, Option.ite_none_right_eq_some] at hname
        rw [hname.1, hnames]
        decide
  | operation | fragment | schema | directive | type | extendSchema => cases hname

end Schema

end QueryLint
