import QueryLint.Proofs.Schema.Failure

/-!
# What a schema holds

Main statement: `Schema.ofDefinitions_wellFormed`. A schema has every type and every directive that
is defined, extensions included, in the order of the definitions, and then the built-in ones that
are not. Each member, type and directive stands under its own name, and each root type is one of the
types.

What a schema has under a name is read off the definitions (`Schema.type?_of_ofDefinitions`,
`Schema.directive?_of_ofDefinitions`). That names and values belong together is kept by every step
that makes a draft (`Draft.WellKeyed.define`, `Draft.WellKeyed.extend`).
-/

namespace QueryLint

open QueryLint.Language

/-! ## Values under their own names -/

namespace Table

variable {α β : Type}

/-- The names of a table differ from each other, each is that of its value, and all values are good.
-/
structure Keyed (name : α → String) (good : α → Prop) (table : Table α) : Prop where
  nodup : table.keys.Nodup
  named : ∀ entry ∈ table.entries, name entry.2 = entry.1
  good : ∀ entry ∈ table.entries, good entry.2

variable {name : α → String} {good : α → Prop} {table : Table α}

theorem keyed_of_get?
    (h : ∀ key value, table.get? key = some value → name value = key ∧ good value) :
    table.Keyed name good where
  nodup := table.nodup
  named := fun entry hentry ↦ (h entry.1 entry.2 (get?_eq_some_iff.mpr hentry)).1
  good := fun entry hentry ↦ (h entry.1 entry.2 (get?_eq_some_iff.mpr hentry)).2

theorem keyed_empty : (empty : Table α).Keyed name good :=
  keyed_of_get? fun _ _ h ↦ nomatch h

namespace Keyed

theorem of_get? (h : table.Keyed name good) {key : String} {value : α}
    (hvalue : table.get? key = some value) : name value = key ∧ good value :=
  ⟨h.named _ (get?_eq_some_iff.mp hvalue), h.good _ (get?_eq_some_iff.mp hvalue)⟩

theorem insert (h : table.Keyed name good) {key : String} {value : α} (hname : name value = key)
    (hgood : good value) : (table.insert key value).Keyed name good := by
  refine keyed_of_get? fun other found hfound ↦ ?_
  rw [get?_insert] at hfound
  split at hfound
  · next hkey =>
      cases hfound
      exact ⟨hname.trans hkey.symm, hgood⟩
  · exact h.of_get? hfound

theorem insertAll (h : table.Keyed name good) {entries : List (String × α)}
    (hentries : ∀ entry ∈ entries, name entry.2 = entry.1 ∧ good entry.2) :
    (table.insertAll entries).Keyed name good := by
  induction entries generalizing table with
  | nil => exact h
  | cons entry rest ih =>
      obtain ⟨⟨hname, hgood⟩, hrest⟩ := List.forall_mem_cons.mp hentries
      exact ih (h.insert hname hgood) hrest

theorem insertNew (h : table.Keyed name good) {key : String} {value : α}
    (hname : name value = key) (hgood : good value) :
    (table.insertNew key value).Keyed name good := by
  unfold Table.insertNew
  split
  · exact h
  · exact h.insert hname hgood

theorem foldl_insertNew (h : table.Keyed name good) {key : β → String} {value : β → α}
    {items : List β} (hitems : ∀ item ∈ items, name (value item) = key item ∧ good (value item)) :
    (items.foldl (fun table item ↦ table.insertNew (key item) (value item)) table).Keyed name
      good := by
  induction items generalizing table with
  | nil => exact h
  | cons item rest ih =>
      obtain ⟨⟨hname, hgood⟩, hrest⟩ := List.forall_mem_cons.mp hitems
      exact ih (h.insertNew hname hgood) hrest

/-- A table with the entries of another one written to it. -/
theorem insertAll_entries {added : Table α} (h : table.Keyed name good)
    (hadded : added.Keyed name good) : (table.insertAll added.entries).Keyed name good :=
  h.insertAll fun entry hentry ↦ ⟨hadded.named entry hentry, hadded.good entry hentry⟩

end Keyed

theorem keyed_ofList_map {value : β → α} {items : List β} {key : β → String}
    (hname : ∀ item, name (value item) = key item) (hgood : ∀ item, good (value item)) :
    (ofList (items.map fun item ↦ (key item, value item))).Keyed name good := by
  refine keyed_empty.insertAll fun entry hentry ↦ ?_
  obtain ⟨item, -, rfl⟩ := List.mem_map.mp hentry
  exact ⟨hname item, hgood item⟩

end Table

/-- The arguments of a field stand under their names. -/
def FieldDef.WellKeyed (field : FieldDef) : Prop :=
  field.arguments.Keyed InputValueDef.name fun _ ↦ True

/-- The arguments of a directive stand under their names. -/
def DirectiveDef.WellKeyed (directive : DirectiveDef) : Prop :=
  directive.arguments.Keyed InputValueDef.name fun _ ↦ True

/-- The members of a type stand under their names, and so do the arguments of its fields. -/
structure TypeDef.WellKeyed (type : TypeDef) : Prop where
  fields : type.fields.Keyed FieldDef.name FieldDef.WellKeyed
  inputFields : type.inputFields.Keyed InputValueDef.name fun _ ↦ True
  enumValues : type.enumValues.Keyed EnumValueDef.name fun _ ↦ True

theorem InputValueDef.keyed_tableOf (definitions : List InputValueDefinition) :
    (tableOf definitions).Keyed InputValueDef.name fun _ ↦ True :=
  Table.keyed_ofList_map (fun _ ↦ rfl) fun _ ↦ trivial

theorem EnumValueDef.keyed_tableOf (definitions : List EnumValueDefinition) :
    (tableOf definitions).Keyed EnumValueDef.name fun _ ↦ True :=
  Table.keyed_ofList_map (fun _ ↦ rfl) fun _ ↦ trivial

theorem FieldDef.keyed_tableOf (definitions : List FieldDefinition) :
    (tableOf definitions).Keyed FieldDef.name WellKeyed :=
  Table.keyed_ofList_map (fun _ ↦ rfl) fun definition ↦
    InputValueDef.keyed_tableOf definition.arguments

theorem TypeDef.name_addMembers (type : TypeDef) (body : TypeBody) :
    (type.addMembers body).name = type.name := by
  cases body <;> rfl

theorem TypeDef.WellKeyed.addMembers {type : TypeDef} (h : type.WellKeyed) (body : TypeBody) :
    (type.addMembers body).WellKeyed := by
  cases body with
  | object interfaces fields | interface interfaces fields =>
      exact { h with fields := h.fields.insertAll_entries (FieldDef.keyed_tableOf fields) }
  | enum values =>
      exact { h with
        enumValues := h.enumValues.insertAll_entries (EnumValueDef.keyed_tableOf values) }
  | input fields =>
      exact { h with
        inputFields := h.inputFields.insertAll_entries (InputValueDef.keyed_tableOf fields) }
  | scalar | union => exact h

theorem TypeDef.wellKeyed_bare (name : String) (kind : TypeKind) (description : Option String) :
    (bare name kind description).WellKeyed :=
  ⟨Table.keyed_empty, Table.keyed_empty, Table.keyed_empty⟩

theorem TypeDef.wellKeyed_ofDefinition (definition : TypeDefinition) :
    (ofDefinition definition).WellKeyed :=
  (wellKeyed_bare _ _ _).addMembers definition.body

theorem DirectiveDef.wellKeyed_of_mem_builtin :
    ∀ directive ∈ builtinDirectives, directive.WellKeyed := by
  simp only [builtinDirectives, List.forall_mem_cons]
  refine ⟨?_, ?_, ?_, ?_, fun _ h ↦ nomatch h⟩ <;>
    exact Table.keyed_empty.insert rfl trivial

namespace Schema

/-- All types, directives and members of a schema stand under their names. -/
structure WellKeyed (schema : Schema) : Prop where
  types : schema.types.Keyed TypeDef.name TypeDef.WellKeyed
  directives : schema.directives.Keyed DirectiveDef.name DirectiveDef.WellKeyed

namespace Draft

@[inherit_doc Schema.WellKeyed]
structure WellKeyed (draft : Draft) : Prop where
  types : draft.types.Keyed TypeDef.name TypeDef.WellKeyed
  directives : draft.directives.Keyed DirectiveDef.name DirectiveDef.WellKeyed

theorem wellKeyed_empty : empty.WellKeyed := ⟨Table.keyed_empty, Table.keyed_empty⟩

namespace WellKeyed

variable {draft next : Draft} {definition : Definition}

theorem define (h : draft.WellKeyed) (hnext : draft.define definition = .ok next) :
    next.WellKeyed := by
  cases definition with
  | type definition =>
      simp only [Draft.define] at hnext
      split at hnext
      · cases hnext
      · cases hnext
        have hgood := TypeDef.wellKeyed_ofDefinition definition
        exact ⟨h.types.insert (TypeDef.name_ofDefinition definition) hgood, h.directives⟩
  | directive definition =>
      simp only [Draft.define] at hnext
      split at hnext
      · cases hnext
      · cases hnext
        have hgood := InputValueDef.keyed_tableOf definition.arguments
        exact ⟨h.types, h.directives.insert rfl hgood⟩
  | operation | fragment | schema | extendSchema | extendType =>
      cases hnext
      exact ⟨h.types, h.directives⟩

theorem extend (h : draft.WellKeyed) (hnext : draft.extend definition = .ok next) :
    next.WellKeyed := by
  cases definition with
  | extendType extension =>
      simp only [Draft.extend] at hnext
      split at hnext
      · split at hnext
        · cases hnext
        · next type htype =>
            cases hnext
            obtain ⟨hname, hgood⟩ := h.types.of_get? htype
            have hextended := (type.name_addMembers extension.body).trans hname
            exact ⟨h.types.insert hextended (hgood.addMembers extension.body), h.directives⟩
      · cases hnext
        exact h
  | operation | fragment | schema | directive | type | extendSchema =>
      cases hnext
      exact h

theorem finish (h : draft.WellKeyed) {schema : Schema} (hschema : draft.finish = .ok schema) :
    schema.WellKeyed := by
  obtain ⟨htypes, hdirectives, -⟩ := finish_eq_ok_iff.mp hschema
  constructor
  · rw [htypes]
    exact h.types.foldl_insertNew fun name _ ↦ ⟨rfl, TypeDef.wellKeyed_bare name _ _⟩
  · rw [hdirectives]
    exact h.directives.foldl_insertNew fun directive hmem ↦
      ⟨rfl, DirectiveDef.wellKeyed_of_mem_builtin directive hmem⟩

end WellKeyed

end Draft

variable {definitions : List Definition} {schema : Schema}

theorem wellKeyed_of_ofDefinitions (h : ofDefinitions definitions = .ok schema) :
    schema.WellKeyed := by
  unfold ofDefinitions at h
  obtain ⟨defined, hdefined, h⟩ := bind_eq_ok_iff.mp h
  obtain ⟨extended, hextended, hfinish⟩ := bind_eq_ok_iff.mp h
  have hkept := foldlM_keeps (fun _ _ _ ↦ Draft.WellKeyed.define) Draft.wellKeyed_empty hdefined
  exact (foldlM_keeps (fun _ _ _ ↦ Draft.WellKeyed.extend) hkept hextended).finish hfinish

/-! ## What definitions declare under a name -/

end Schema

/-- The body of an extension of a type. -/
def Language.Definition.extensionOf? (name : String) : Definition → Option TypeBody
  | .extendType extension => if extension.name.text = name then some extension.body else none
  | _ => none

namespace Schema

/-- The bodies of all extensions of a type, in order. -/
def extensions (name : String) (definitions : List Definition) : List TypeBody :=
  definitions.filterMap (Definition.extensionOf? name)

/-- The type that is defined under a name, with the members that its extensions add. -/
def declaredType? (definitions : List Definition) (name : String) : Option TypeDef :=
  ((definitions.filterMap Definition.type?).find? (·.name.text = name)).map fun definition ↦
    (extensions name definitions).foldl TypeDef.addMembers (.ofDefinition definition)

/-- The directive that is defined under a name. -/
def declaredDirective? (definitions : List Definition) (name : String) : Option DirectiveDef :=
  ((definitions.filterMap Definition.directive?).find? (·.name.text = name)).map .ofDefinition

/-- The entries of all schema definitions in order; `none` if there is no schema definition. -/
def declaredEntries? (definitions : List Definition) : Option (List (OperationKind × String)) :=
  match definitions.filterMap Definition.schema? with
  | [] => none
  | found => some (found.flatMap Draft.rootEntries)

/-- The root types that the entries of schema definitions give; without schema definition, those of
the customary names. -/
def chosenRoots (types : Table TypeDef) :
    Option (List (OperationKind × String)) → Except LoadError Roots
  | some entries => Draft.declaredRoots types .none entries
  | none => .ok (Draft.customaryRoots types)

/-- What is read off declarations can be read off definitions. -/
theorem filterMap_declarations {α : Type} {get : Declaration → Option α}
    {read : Definition → Option α}
    (h : ∀ definition, (Declaration.ofDefinition? definition).bind get = read definition)
    (definitions : List Definition) :
    (Declaration.ofDefinitions definitions).filterMap get = definitions.filterMap read := by
  rw [Declaration.ofDefinitions, List.filterMap_filterMap]
  exact List.filterMap_congr fun definition _ ↦ h definition

/-- An extension declares members and nothing else. -/
theorem bind_ofDefinition?_extendType {α : Type} {get : Declaration → Option α}
    (h : ∀ name members, get (.extension name members) = none) (extension : TypeDefinition) :
    (Declaration.ofDefinition? (.extendType extension)).bind get = none := by
  simp only [Declaration.ofDefinition?]
  cases Members.ofBody? extension.body with
  | none => rfl
  | some members => exact h extension.name.text members

theorem filterMap_type?_declarations (definitions : List Definition) :
    (Declaration.ofDefinitions definitions).filterMap Declaration.type? =
      (definitions.filterMap Definition.type?).map TypeDef.ofDefinition := by
  rw [List.map_filterMap]
  refine filterMap_declarations (fun definition ↦ ?_) definitions
  cases definition with
  | extendType extension => exact bind_ofDefinition?_extendType (fun _ _ ↦ rfl) extension
  | operation | fragment | schema | directive | type | extendSchema => rfl

theorem filterMap_directive?_declarations (definitions : List Definition) :
    (Declaration.ofDefinitions definitions).filterMap Declaration.directive? =
      (definitions.filterMap Definition.directive?).map DirectiveDef.ofDefinition := by
  rw [List.map_filterMap]
  refine filterMap_declarations (fun definition ↦ ?_) definitions
  cases definition with
  | extendType extension => exact bind_ofDefinition?_extendType (fun _ _ ↦ rfl) extension
  | operation | fragment | schema | directive | type | extendSchema => rfl

theorem filterMap_roots?_declarations (definitions : List Definition) :
    (Declaration.ofDefinitions definitions).filterMap Declaration.roots? =
      (definitions.filterMap Definition.schema?).map Draft.rootEntries := by
  rw [List.map_filterMap]
  refine filterMap_declarations (fun definition ↦ ?_) definitions
  cases definition with
  | extendType extension => exact bind_ofDefinition?_extendType (fun _ _ ↦ rfl) extension
  | operation | fragment | schema | directive | type | extendSchema => rfl

theorem filterMap_members?_declarations (definitions : List Definition) (name : String) :
    (Declaration.ofDefinitions definitions).filterMap (·.members? name) =
      (extensions name definitions).filterMap Members.ofBody? := by
  rw [extensions, List.filterMap_filterMap]
  refine filterMap_declarations (fun definition ↦ ?_) definitions
  cases definition with
  | extendType extension =>
      simp only [Declaration.ofDefinition?, Definition.extensionOf?]
      by_cases hname : extension.name.text = name
      · cases hmembers : Members.ofBody? extension.body <;>
          simp [hname, hmembers, Declaration.members?]
      · cases Members.ofBody? extension.body <;> simp [hname, Declaration.members?]
  | operation | fragment | schema | directive | type | extendSchema => rfl

theorem foldl_add_filterMap_ofBody? (type : TypeDef) (bodies : List TypeBody) :
    (bodies.filterMap Members.ofBody?).foldl TypeDef.add type =
      bodies.foldl TypeDef.addMembers type := by
  induction bodies generalizing type with
  | nil => rfl
  | cons body rest ih =>
      rw [List.foldl_cons, ← ih]
      cases body <;> rfl

/-! ## What a schema has under a name -/

variable {definitions : List Definition} {schema : Schema}

/-- A schema has the types that are defined, and the built-in scalars that are not. -/
theorem type?_of_ofDefinitions (h : ofDefinitions definitions = .ok schema) (name : String) :
    schema.type? name =
      (declaredType? definitions name <|>
        (builtinScalars.find? (· = name)).map (.bare · .scalar none)) := by
  obtain ⟨defined, extended, hdefined, hextended, hfinish⟩ := ofDefinitions_eq_ok_iff.mp h
  have hadds := Draft.foldlM_declare_eq_ok_iff.mp hdefined
  have hamends := Draft.amends_of_foldlM_amend hextended
  have hread : defined.types.get? name =
      ((definitions.filterMap Definition.type?).find? (·.name.text = name)).map .ofDefinition := by
    unfold Table.get?
    rw [hadds.types, filterMap_type?_declarations, List.map_map]
    simp only [Function.comp_def, TypeDef.name_ofDefinition]
    exact lookup_map_entry _ _ _ name
  have hdeclared : extended.types.get? name = declaredType? definitions name := by
    rw [hamends.types, hread, filterMap_members?_declarations, Option.map_map]
    simp only [Function.comp_def, foldl_add_filterMap_ofBody?]
    rfl
  unfold type?
  rw [(Draft.finish_eq_ok_iff.mp hfinish).1, ← hdeclared]
  exact Table.get?_foldl_insertNew id _ builtinScalars extended.types name

/-- A schema has the directives that are defined, and the built-in ones that are not. -/
theorem directive?_of_ofDefinitions (h : ofDefinitions definitions = .ok schema) (name : String) :
    schema.directive? name =
      (declaredDirective? definitions name <|> builtinDirectives.find? (·.name = name)) := by
  obtain ⟨defined, extended, hdefined, hextended, hfinish⟩ := ofDefinitions_eq_ok_iff.mp h
  have hadds := Draft.foldlM_declare_eq_ok_iff.mp hdefined
  have hdeclared : extended.directives.get? name = declaredDirective? definitions name := by
    rw [(Draft.amends_of_foldlM_amend hextended).directives]
    unfold Table.get?
    rw [hadds.directives, filterMap_directive?_declarations, List.map_map]
    exact lookup_map_entry _ _ _ name
  have hcompleted := Table.get?_foldl_insertNew DirectiveDef.name id builtinDirectives
    extended.directives name
  unfold directive?
  rw [(Draft.finish_eq_ok_iff.mp hfinish).2.1, ← hdeclared]
  rw [Option.map_id] at hcompleted
  exact hcompleted

theorem foldl_append_some (lists : List (List (OperationKind × String)))
    (found : List (OperationKind × String)) :
    lists.foldl (fun found entries ↦ some (found.getD [] ++ entries)) (some found) =
      some (found ++ lists.flatten) := by
  induction lists generalizing found with
  | nil => simp
  | cons entries rest ih => rw [List.foldl_cons, Option.getD_some, ih, List.flatten_cons,
      List.append_assoc]

/-- Which root types are chosen depends on the names of the types only. -/
theorem chosenRoots_congr {types other : Table TypeDef}
    (h : ∀ name, types.contains name = other.contains name)
    (entries? : Option (List (OperationKind × String))) :
    chosenRoots types entries? = chosenRoots other entries? := by
  cases entries? with
  | some entries => exact Draft.declaredRoots_congr h .none entries
  | none => exact congrArg Except.ok (Draft.customaryRoots_congr h)

/-- The root types of a schema are those that the schema definitions choose among its types. -/
theorem chosenRoots_of_ofDefinitions (h : ofDefinitions definitions = .ok schema) :
    chosenRoots schema.types (declaredEntries? definitions) = .ok schema.roots := by
  obtain ⟨defined, extended, hdefined, hextended, hfinish⟩ := ofDefinitions_eq_ok_iff.mp h
  obtain ⟨htypes, -, hroots⟩ := Draft.finish_eq_ok_iff.mp hfinish
  have hentries : extended.roots = declaredEntries? definitions := by
    rw [(Draft.amends_of_foldlM_amend hextended).roots,
      (Draft.foldlM_declare_eq_ok_iff.mp hdefined).roots, filterMap_roots?_declarations,
      declaredEntries?]
    cases definitions.filterMap Definition.schema? with
    | nil => rfl
    | cons first rest =>
        rw [List.map_cons, List.foldl_cons]
        exact (foldl_append_some _ _).trans (by simp [Draft.empty, List.flatMap])
  rw [htypes, ← hentries, ← hroots, Draft.chosenRoots]
  cases extended.roots <;> rfl

theorem lists_of_ofDefinitions (h : ofDefinitions definitions = .ok schema) :
    schema.Lists definitions := by
  have hsettles := settles_ofDefinitions definitions
  rw [h] at hsettles
  exact hsettles.good_of_ok

/-- Every type that is defined is there, with the members that its extensions add, and so is every
directive that is defined. Built-in ones that are not defined are there as they are built in. -/
structure Holds (definitions : List Definition) (schema : Schema) : Prop where
  type : ∀ definition, .type definition ∈ definitions →
    schema.type? definition.name.text =
      some ((extensions definition.name.text definitions).foldl TypeDef.addMembers
        (.ofDefinition definition))
  scalar : ∀ name ∈ builtinScalars, name ∉ typeNames definitions →
    schema.type? name = some (.bare name .scalar none)
  directive : ∀ definition, .directive definition ∈ definitions →
    schema.directive? definition.name.text = some (.ofDefinition definition)
  builtinDirective : ∀ directive ∈ builtinDirectives,
    directive.name ∉ directiveNames definitions →
      schema.directive? directive.name = some directive

theorem mem_filterMap_type? {definition : TypeDefinition} :
    definition ∈ definitions.filterMap Definition.type? ↔ .type definition ∈ definitions := by
  rw [List.mem_filterMap]
  constructor
  · rintro ⟨found, hmem, htype⟩
    cases found with
    | type found =>
        cases htype
        exact hmem
    | operation | fragment | schema | directive | extendSchema | extendType => cases htype
  · exact fun hmem ↦ ⟨_, hmem, rfl⟩

/-- A type is declared by the only definition of its name. -/
theorem declaredType?_eq_some (hnodup : (typeNames definitions).Nodup)
    {definition : TypeDefinition} (h : .type definition ∈ definitions) :
    declaredType? definitions definition.name.text =
      some ((extensions definition.name.text definitions).foldl TypeDef.addMembers
        (.ofDefinition definition)) := by
  rw [declaredType?, find?_eq_some_of_nodup hnodup (mem_filterMap_type?.mpr h), Option.map_some]

theorem declaredDirective?_eq_some (hnodup : (directiveNames definitions).Nodup)
    {definition : DirectiveDefinition} (h : .directive definition ∈ definitions) :
    declaredDirective? definitions definition.name.text = some (.ofDefinition definition) := by
  have hmem : definition ∈ definitions.filterMap Definition.directive? :=
    List.mem_filterMap.mpr ⟨_, h, rfl⟩
  rw [declaredDirective?, find?_eq_some_of_nodup hnodup hmem, Option.map_some]

theorem nodup_of_ofDefinitions (h : ofDefinitions definitions = .ok schema) :
    (typeNames definitions).Nodup ∧ (directiveNames definitions).Nodup := by
  have hfailure := (settles_ofDefinitions definitions).exists_ok_iff.mp ⟨schema, h⟩
  simp only [failure?, Option.orElse_eq_orElse, Option.orElse_eq_or,
    Option.or_eq_none_iff] at hfailure
  exact (firstError?_repetition?_eq_none_iff definitions).mp hfailure.1

/-- The definitions of directives determine the directives of the schema. -/
theorem directives_eq_of_ofDefinitions {others : List Definition} {other : Schema}
    (h : ofDefinitions definitions = .ok schema) (hother : ofDefinitions others = .ok other)
    (hdirectives : definitions.filterMap Definition.directive? =
      others.filterMap Definition.directive?) :
    schema.directives = other.directives := by
  have hlists := lists_of_ofDefinitions h
  have hotherLists := lists_of_ofDefinitions hother
  refine Table.eq_of_keys_of_get? ?_ fun name ↦ ?_
  · rw [hlists.directives, hotherLists.directives, directiveNames, directiveNames, hdirectives]
  · have hread := directive?_of_ofDefinitions h name
    rw [declaredDirective?, hdirectives] at hread
    exact hread.trans (directive?_of_ofDefinitions hother name).symm

/-- What is declared determines the schema. -/
theorem eq_of_ofDefinitions {others : List Definition} {other : Schema}
    (h : ofDefinitions definitions = .ok schema) (hother : ofDefinitions others = .ok other)
    (hnames : typeNames definitions = typeNames others)
    (htypes : ∀ name, declaredType? definitions name = declaredType? others name)
    (hdirectives : definitions.filterMap Definition.directive? =
      others.filterMap Definition.directive?)
    (hschemas : definitions.filterMap Definition.schema? = others.filterMap Definition.schema?) :
    schema = other := by
  have hlists := lists_of_ofDefinitions h
  have hotherLists := lists_of_ofDefinitions hother
  have hsameTypes : schema.types = other.types := by
    refine Table.eq_of_keys_of_get? ?_ fun name ↦ ?_
    · rw [hlists.types, hotherLists.types, hnames]
    · have hread := type?_of_ofDefinitions h name
      rw [htypes, ← type?_of_ofDefinitions hother] at hread
      exact hread
  have hsameDirectives := directives_eq_of_ofDefinitions h hother hdirectives
  have hsameRoots : schema.roots = other.roots := by
    have hroots := chosenRoots_of_ofDefinitions h
    rw [declaredEntries?, hschemas, hsameTypes] at hroots
    exact Except.ok.inj (hroots.symm.trans (chosenRoots_of_ofDefinitions hother))
  cases schema
  cases other
  cases hsameTypes
  cases hsameDirectives
  cases hsameRoots
  rfl

theorem holds_of_ofDefinitions (h : ofDefinitions definitions = .ok schema) :
    schema.Holds definitions := by
  obtain ⟨htypes, hdirectives⟩ := nodup_of_ofDefinitions h
  refine ⟨?_, ?_, ?_, ?_⟩
  · intro definition hmem
    rw [type?_of_ofDefinitions h, declaredType?_eq_some htypes hmem]
    rfl
  · intro name hbuiltin hname
    rw [type?_of_ofDefinitions h, declaredType?, find?_eq_none_of_not_mem hname]
    have hfound : builtinScalars.find? (· = name) = some name :=
      find?_eq_some_of_nodup (show (builtinScalars.map id).Nodup by decide) hbuiltin
    simp [hfound]
  · intro definition hmem
    rw [directive?_of_ofDefinitions h, declaredDirective?_eq_some hdirectives hmem]
    rfl
  · intro directive hbuiltin hname
    rw [directive?_of_ofDefinitions h, declaredDirective?, find?_eq_none_of_not_mem hname]
    have hfound : builtinDirectives.find? (·.name = directive.name) = some directive :=
      find?_eq_some_of_nodup (by decide) hbuiltin
    simp [hfound]

/-- An operation kind has a root type exactly if a root type is set, and it is the type of that
name. -/
theorem map_name_root? (hkeyed : schema.WellKeyed) (hroots : schema.roots.Among schema.types.keys)
    (kind : OperationKind) : (schema.root? kind).map TypeDef.name = schema.roots.get kind := by
  unfold root?
  cases hname : schema.roots.get kind with
  | none => rfl
  | some name =>
      have hmem := hroots kind name hname
      rw [Table.mem_keys_iff, Option.isSome_iff_exists] at hmem
      obtain ⟨type, htype⟩ := hmem
      rw [Option.bind_some, type?, htype, Option.map_some, (hkeyed.types.of_get? htype).1]

/-- A schema that definitions define is well formed. All names differ and are those of what they
stand for. Types and directives stand in the order of their definitions, as they are defined, and
then come the built-in ones that are not defined. A kind of operation has a root type exactly if one
is set for it, and it is the type of that name. -/
theorem ofDefinitions_wellFormed (h : ofDefinitions definitions = .ok schema) :
    schema.WellKeyed ∧ schema.Lists definitions ∧ schema.Holds definitions ∧
      ∀ kind, (schema.root? kind).map TypeDef.name = schema.roots.get kind := by
  have hkeyed := wellKeyed_of_ofDefinitions h
  have hlists := lists_of_ofDefinitions h
  exact ⟨hkeyed, hlists, holds_of_ofDefinitions h, map_name_root? hkeyed hlists.roots⟩

/-- A schema with a scalar and a directive of its own in place of built-in ones, repeated members
and an extension. -/
theorem ofDefinitions_wellFormed_redefined :
    let definitions := Definition.listOfText <|
      "directive @skip on FIELD schema \x7b query: Root \x7d scalar Int " ++
        "type Root \x7b id(a: Int, b: Int, a: ID): ID \x7d enum E \x7b A B A \x7d " ++
          "extend type Root \x7b at: Int id: Int \x7d"
    ∃ schema, ofDefinitions definitions = .ok schema ∧ schema.WellKeyed ∧
      schema.Lists definitions ∧ schema.Holds definitions ∧
        (schema.root? .query).map TypeDef.name = some "Root" ∧
          schema.types.keys = ["Int", "Root", "E", "String", "Float", "Boolean", "ID"] ∧
            schema.directives.keys = ["skip", "include", "deprecated", "specifiedBy"] := by
  intro definitions
  obtain ⟨htypes, hdirectives, hroot⟩ :
      typeNames definitions = ["Int", "Root", "E"] ∧ directiveNames definitions = ["skip"] ∧
        (ofDefinitions definitions).toOption.map (·.roots.query) = some (some "Root") := by
    decide +kernel
  cases hschema : ofDefinitions definitions with
  | error cause =>
      rw [hschema] at hroot
      cases hroot
  | ok schema =>
      rw [hschema] at hroot
      obtain ⟨hkeyed, hlists, hholds, hroots⟩ := ofDefinitions_wellFormed hschema
      refine ⟨schema, rfl, hkeyed, hlists, hholds, ?_, ?_, ?_⟩
      · rw [hroots]
        exact Option.some.inj hroot
      · rw [hlists.types, htypes]
        decide
      · rw [hlists.directives, hdirectives]
        decide

end Schema

end QueryLint
