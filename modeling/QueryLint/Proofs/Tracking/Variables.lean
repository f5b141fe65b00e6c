import QueryLint.Proofs.Schema.Layers
import QueryLint.Proofs.Walk.Namings

/-!
# The types of variables

Main statement: `Document.namedType_of_variables`. In a written type a walk meets one named type,
and the reference for the type ends in its name. So there is one named type in a variable
definition, and its name is the one under which the input type in force there has been looked up.

A site says nothing of the construct that it is met in. `Construct.exists_descent_of_site` finds
one: wherever a node stands among the sites of a row, the descent of its construct begins there. So
what goes for the descent of a construct goes for the sites that follow the node.
-/

namespace QueryLint

open QueryLint.Language

/-- An input type is looked up under the innermost name of its reference, which has its layers. -/
theorem Schema.inputType?_eq_some_iff (schema : Schema) {type : TypeRef} {found : ResolvedType} :
    schema.inputType? type = some found ↔
      schema.type? type.name = some found.namedType ∧ found.namedType.kind.isInput = true ∧
        found.wrappers = type.wrappers := by
  rw [inputType?, Option.filter_eq_some_iff, resolve?_eq_some_iff]
  constructor
  · rintro ⟨⟨hwrappers, htype⟩, hkind⟩
    exact ⟨htype, hkind, hwrappers⟩
  · rintro ⟨htype, hkind, hwrappers⟩
    exact ⟨⟨hwrappers, htype⟩, hkind⟩

namespace Language

/-! ## Sites and the constructs that they are met in -/

namespace Construct

variable {schema : Schema} {before after : List Site} {site : Site}

/-- A site of a construct is its own, which comes first, or one of its parts. -/
theorem site_cases {here : Construct} {scope : Scope}
    (h : here.descent schema scope = before ++ site :: after) :
    here.site? schema scope = some site ∧ before = [] ∨
      ∃ between, here.parts.flatMap (descent schema (scope.into schema here)) =
        between ++ site :: after := by
  have hwalked {between : List Site} (hparts : here.walkedParts.flatMap
      (descent schema (scope.into schema here)) = between ++ site :: after) :
      ∃ between, here.parts.flatMap (descent schema (scope.into schema here)) =
        between ++ site :: after := by
    unfold walkedParts at hparts
    split at hparts
    · exact ⟨between, hparts⟩
    · simp at hparts
  rw [descent_eq] at h
  cases hsite : here.site? schema scope with
  | none =>
      rw [hsite] at h
      exact .inr (hwalked h)
  | some own =>
      rw [hsite] at h
      cases before with
      | nil =>
          obtain ⟨rfl, -⟩ := List.cons.inj h
          exact .inl ⟨rfl, rfl⟩
      | cons first before =>
          obtain ⟨-, h⟩ := List.cons.inj h
          exact .inr (hwalked h)

/-- Wherever a node stands among the sites of a row, the descent of its construct begins. -/
theorem exists_descent_of_site {row : List Construct} {scope : Scope}
    (h : row.flatMap (descent schema scope) = before ++ site :: after) :
    ∃ (here : Construct) (around : Scope), here.site? schema around = some site ∧
      here.descent schema around <+: site :: after := by
  induction row using row_induction generalizing scope before after with
  | nil => simp at h
  | cons here rest ihparts ihrest =>
      rw [List.flatMap_cons] at h
      rcases List.append_eq_append_iff.mp h with ⟨middle, -, hlater⟩ | ⟨middle, hearlier, hrest⟩
      · exact ihrest hlater
      · -- The site is the last but `middle` of this construct, or begins the rest of the row.
        cases middle with
        | nil => exact ihrest (show _ = [] ++ site :: after from hrest.symm)
        | cons other middle =>
            obtain ⟨rfl, rfl⟩ := List.cons.inj hrest
            rcases site_cases hearlier with ⟨hsite, rfl⟩ | ⟨between, hparts⟩
            · exact ⟨here, scope, hsite, hearlier ▸ List.prefix_append (site :: middle) _⟩
            · obtain ⟨part, around, hsite, hprefix⟩ := ihparts hparts
              exact ⟨part, around, hsite, hprefix.trans (List.prefix_append (site :: middle) _)⟩

/-- The nodes that are met in a row do not depend on what is handed down. -/
theorem map_node_descent_congr (schema : Schema) (row : List Construct) (scope around : Scope) :
    (row.flatMap (descent schema scope)).map Site.node =
      (row.flatMap (descent schema around)).map Site.node := by
  induction row using row_induction generalizing scope around with
  | nil => rfl
  | cons here rest ihparts ihrest =>
      have hself : (here.site? schema scope).toList.map Site.node =
          (here.site? schema around).toList.map Site.node := by
        unfold site?
        cases here.event?.bind Event.begins? <;> rfl
      have hparts : (here.walkedParts.flatMap (descent schema (scope.into schema here))).map
          Site.node =
            (here.walkedParts.flatMap (descent schema (around.into schema here))).map
              Site.node := by
        unfold walkedParts
        split
        · exact ihparts _ _
        · rfl
      rw [List.flatMap_cons, List.flatMap_cons, List.map_append, List.map_append, descent_eq,
        descent_eq, List.map_append, List.map_append, hself, hparts, ihrest scope around]

/-- The node of a variable definition is that of the construct. -/
theorem eq_variableDefinition_of_site? {here : Construct} {scope : Scope}
    {definition : VariableDefinition} {context : Context}
    (h : here.site? schema scope = some ⟨.variableDefinition definition, context⟩) :
    here = .variableDefinition definition := by
  cases here with
  | variableDefinition it =>
      cases h
      rfl
  | definition it => cases it <;> cases h
  | value it => cases it <;> cases h
  | selection it => cases it <;> cases h
  | _ => cases h

end Construct

/-! ## Variable definitions -/

namespace VariableDefinition

variable (schema : Schema) (definition : VariableDefinition)

/-- What is met in a variable definition is what begins in its walk, whatever is handed down. -/
theorem map_node_descent (here : Context) :
    (definition.descent schema here).map Site.node =
      definition.events.filterMap Event.begins? := by
  have hcongr := Construct.map_node_descent_congr schema [.variableDefinition definition]
    ⟨here, none⟩ .outside
  simp only [List.flatMap_singleton, Construct.descent] at hcongr
  rw [hcongr, ← Tracker.start.map_node_sites schema,
    (Tracker.covers_variableDefinition schema Tracker.settled_start definition).sites_eq]
  rfl

/-- The default and the directives of a variable definition have no named types in them. -/
theorem kind_ne_namedType_of_mem {here : Context} {site : Site}
    (h : site ∈ descentOfOptional schema here definition.default ++
      definition.directives.flatMap (Directive.descent schema here)) :
    site.node.kind ≠ .namedType := by
  have hnamings : (definition.default.toList.map Construct.value ++
      definition.directives.map Construct.directive).flatMap Construct.namings = [] := by
    rw [List.flatMap_append, Construct.flatMap_namings_eq_nil fun _ ↦ rfl,
      Construct.flatMap_namings_eq_nil fun _ ↦ rfl, List.append_nil]
  rw [← Construct.filterMap_naming?_descent schema ⟨here, none⟩, List.filterMap_eq_nil_iff,
    List.flatMap_append, List.flatMap_map, List.flatMap_map] at hnamings
  rw [descentOfOptional_eq_flatMap] at h
  intro hkind
  obtain ⟨node, context⟩ := site
  cases node with
  | namedType name => cases hnamings _ h
  | _ => cases hkind

/-- There is one named type in a variable definition, and the same is in force there as at the
definition. -/
theorem filter_namedType_descent (here : Context) :
    (definition.descent schema here).filter (·.node.kind = .namedType) =
      [⟨.namedType definition.type.name, here.inVariable schema definition.type⟩] := by
  rw [descent, List.filter_cons_of_neg (by simp [Node.kind]), List.filter_cons_of_pos rfl,
    List.filter_eq_nil_iff.mpr]
  intro site hsite hkind
  exact definition.kind_ne_namedType_of_mem schema hsite (of_decide_eq_true hkind)

end VariableDefinition

namespace Document

/-- A walk meets every variable definition of an operation in a document. -/
theorem exists_site_of_variableDefinition (schema : Schema) {document : Document}
    {operation : Operation} (hoperation : .operation operation ∈ document.definitions)
    {definition : VariableDefinition} (hdefinition : definition ∈ operation.variableDefinitions) :
    ∃ site ∈ document.sites schema, site.node = .variableDefinition definition := by
  have hwithin : Event.enter (.variableDefinition definition) ∈
      (Definition.operation operation).events := by
    refine List.mem_cons_of_mem _ (List.mem_append_left _ (List.mem_append_left _ ?_))
    refine List.mem_append_left _ (List.mem_flatMap.mpr ⟨definition, hdefinition, ?_⟩)
    exact List.mem_cons_self
  have hevent : Event.enter (.variableDefinition definition) ∈ document.events := by
    refine List.mem_cons_of_mem _ (List.mem_append_left _ ?_)
    exact List.mem_flatMap.mpr ⟨.operation operation, hoperation, hwithin⟩
  exact exists_site_of_begins? schema hevent rfl

/-- Wherever a variable definition stands among the sites of a document, its descent begins, and the
declared type has been brought into force. -/
theorem exists_descent_of_variableDefinition {schema : Schema} {document : Document}
    {before after : List Site} {definition : VariableDefinition} {here : Context}
    (h : document.sites schema = before ++ ⟨.variableDefinition definition, here⟩ :: after) :
    ∃ outer : Context, here = outer.inVariable schema definition.type ∧
      definition.descent schema outer <+: ⟨.variableDefinition definition, here⟩ :: after := by
  rw [sites, (Tracker.covers_document schema document).sites_eq, descent] at h
  cases before with
  | nil => cases h
  | cons first before =>
      obtain ⟨-, h⟩ := List.cons.inj h
      have hrow : (document.definitions.map Construct.definition).flatMap
          (Construct.descent schema .outside) =
            before ++ ⟨.variableDefinition definition, here⟩ :: after := by
        rw [List.flatMap_map]
        exact h
      obtain ⟨construct, around, hsite, hprefix⟩ := Construct.exists_descent_of_site hrow
      obtain rfl := Construct.eq_variableDefinition_of_site? hsite
      cases hsite
      exact ⟨around.context, rfl, hprefix⟩

/-- In a written type a walk meets one named type, whose name the reference for the type ends in.
Every variable definition of a document is met, and wherever one is met, the sites of all that
begins in it follow. Just one of them is a named type, that of the declared type. What is in force
as input there, as at the definition itself, is what a tracker looks up for the declared type: the
type of that name, if it is an input type, under the layers of the reference. -/
theorem namedType_of_variables (schema : Schema) (document : Document) :
    (∀ type : TypeExpr, type.events = [.visit (.namedType type.name)] ∧
      type.name.text = (TypeRef.ofExpr type).name) ∧
    (∀ operation, .operation operation ∈ document.definitions →
      ∀ definition ∈ operation.variableDefinitions,
        ∃ site ∈ document.sites schema, site.node = .variableDefinition definition) ∧
    ∀ before definition here after,
      document.sites schema = before ++ ⟨.variableDefinition definition, here⟩ :: after →
        ∃ sites rest, document.sites schema = before ++ (sites ++ rest) ∧
          sites.map Site.node = definition.events.filterMap Event.begins? ∧
          sites.filter (·.node.kind = .namedType) = [⟨.namedType definition.type.name, here⟩] ∧
          here.input = schema.inputType? (.ofExpr definition.type) ∧
          ∀ found, here.input = some found ↔
            schema.type? definition.type.name.text = some found.namedType ∧
              found.namedType.kind.isInput = true ∧
              found.wrappers = (TypeRef.ofExpr definition.type).wrappers := by
  refine ⟨fun type ↦ ⟨type.events_eq, (TypeRef.name_ofExpr type).symm⟩, ?_, ?_⟩
  · intro operation hoperation definition hdefinition
    exact exists_site_of_variableDefinition schema hoperation hdefinition
  · intro before definition here after hsites
    obtain ⟨outer, rfl, rest, hrest⟩ := exists_descent_of_variableDefinition hsites
    have hinput : (outer.inVariable schema definition.type).input =
        schema.inputType? (.ofExpr definition.type) :=
      (schema.inputType?_eq_takes (.ofExpr definition.type)).symm
    refine ⟨definition.descent schema outer, rest, ?_, ?_, ?_, hinput, fun found ↦ ?_⟩
    · rw [hsites, hrest]
    · exact definition.map_node_descent schema outer
    · exact definition.filter_namedType_descent schema outer
    · rw [hinput, schema.inputType?_eq_some_iff, TypeRef.name_ofExpr]

/-- A list of an object, and a required list of lists of an input object with a list as default and a
directive. Each has one named type, and only the second has an input type in force. -/
theorem namedType_of_variables_nested :
    let name (text : String) : Name := ⟨text, default⟩
    let filter : TypeDef := .bare "Filter" .inputObject none
    let query : TypeDef := .bare "Query" .object none
    let schema : Schema :=
      { Schema.empty with types := .ofList [("Filter", filter), ("Query", query)] }
    let first : VariableDefinition :=
      ⟨default, name "q", .list (.named (name "Query") true) false, none, []⟩
    let directive : Directive := ⟨default, name "d", [⟨default, name "x", some (.enum (name "A"))⟩]⟩
    let second : VariableDefinition :=
      ⟨default, name "f", .list (.list (.named (name "Filter") true) false) true,
        some (.list default [.list default []]), [directive]⟩
    let operation : Operation := ⟨default, .query, none, [first, second], [], ⟨default, []⟩⟩
    let document : Document := ⟨default, [.operation operation]⟩
    let taken : ResolvedType := .nonNull (.list (.list (.nonNull (.named filter))))
    let given : Context := { Context.outside with input := some taken }
    (∃ site ∈ document.sites schema, site.node = .variableDefinition first) ∧
      (∃ before after, document.sites schema =
        before ++ ⟨.variableDefinition first, .outside⟩ :: after ∧
          ∃ sites rest, document.sites schema = before ++ (sites ++ rest) ∧ sites.length = 2 ∧
            sites.filter (·.node.kind = .namedType) =
              [⟨.namedType (name "Query"), .outside⟩]) ∧
      ∃ before after, document.sites schema =
        before ++ ⟨.variableDefinition second, given⟩ :: after ∧
          ∃ sites rest, document.sites schema = before ++ (sites ++ rest) ∧ sites.length = 7 ∧
            sites.filter (·.node.kind = .namedType) = [⟨.namedType (name "Filter"), given⟩] ∧
            schema.type? "Filter" = some filter := by
  intro name filter query schema first directive second operation document taken given
  obtain ⟨-, hmet, hfollow⟩ := namedType_of_variables schema document
  have hfirst : document.sites schema = (document.sites schema).take 2 ++
      ⟨.variableDefinition first, .outside⟩ :: (document.sites schema).drop 3 := rfl
  have hsecond : document.sites schema = (document.sites schema).take 4 ++
      ⟨.variableDefinition second, given⟩ :: (document.sites schema).drop 5 := rfl
  obtain ⟨sites, rest, hsites, hnodes, hnamed, -⟩ := hfollow _ first .outside _ hfirst
  obtain ⟨others, later, hothers, hwithin, hother, -, hinput⟩ := hfollow _ second given _ hsecond
  refine ⟨hmet operation (by simp [document]) first (by simp [operation]), ?_, ?_⟩
  · refine ⟨_, _, hfirst, sites, rest, hsites, ?_, hnamed⟩
    rw [← List.length_map Site.node, hnodes]
    rfl
  · obtain ⟨hfilter, -⟩ := (hinput taken).mp rfl
    refine ⟨_, _, hsecond, others, later, hothers, ?_, hother, hfilter⟩
    rw [← List.length_map Site.node, hwithin]
    rfl

end Document

end Language

end QueryLint
