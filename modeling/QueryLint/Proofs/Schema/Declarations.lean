import QueryLint.Proofs.Outcome
import QueryLint.Proofs.Table
import QueryLint.Schema.Load

/-!
# What definitions declare

A `Declaration` is what a schema takes from a definition (`Schema.ofDefinitions_eq_ok_iff`). It
holds no positions, so it stays the same wherever the definition stands in a text.

A draft first takes up what is defined: each type and each directive is a new entry, and the roots
are put together (`Draft.foldlM_declare_eq_ok_iff`). Then it takes up the extensions: each type gets
the members that are added to it, one after the other (`Draft.amends_of_foldlM_amend`). This works
if all types that are extended are there (`Draft.exists_foldlM_amend_iff`).
-/

namespace QueryLint

open QueryLint.Language

/-! ## Declarations -/

/-- Members of one kind. -/
inductive Members where
  | fields (added : Table FieldDef)
  | enumValues (added : Table EnumValueDef)
  | inputFields (added : Table InputValueDef)
  deriving DecidableEq

/-- The members that a body adds to a type. Bodies of scalars and unions have none. -/
def Members.ofBody? : TypeBody → Option Members
  | .object _ definitions | .interface _ definitions => some (fields (FieldDef.tableOf definitions))
  | .enum definitions => some (enumValues (EnumValueDef.tableOf definitions))
  | .input definitions => some (inputFields (InputValueDef.tableOf definitions))
  | .scalar | .union _ => none

/-- A type with more members. -/
def TypeDef.add (type : TypeDef) : Members → TypeDef
  | .fields added => { type with fields := type.fields.insertAll added.entries }
  | .enumValues added => { type with enumValues := type.enumValues.insertAll added.entries }
  | .inputFields added => { type with inputFields := type.inputFields.insertAll added.entries }

/-- What a schema takes from a definition. -/
inductive Declaration where
  | type (type : TypeDef)
  | directive (directive : DirectiveDef)
  | roots (entries : List (OperationKind × String))
  | extension (name : String) (members : Members)
  deriving DecidableEq

namespace Declaration

/-- What a definition declares. Operations, fragments and extensions of the schema declare nothing,
and neither do extensions of scalars and unions. -/
def ofDefinition? : Definition → Option Declaration
  | .type definition => some (type (.ofDefinition definition))
  | .directive definition => some (directive (.ofDefinition definition))
  | .schema definition => some (roots (Schema.Draft.rootEntries definition))
  | .extendType definition =>
    (Members.ofBody? definition.body).map (extension definition.name.text)
  | .operation _ | .fragment _ | .extendSchema _ => none

/-- What the definitions of a list declare, in order. -/
def ofDefinitions (definitions : List Definition) : List Declaration :=
  definitions.filterMap ofDefinition?

/-- The type that is declared. -/
def type? : Declaration → Option TypeDef
  | .type found => some found
  | _ => none

/-- The directive that is declared. -/
def directive? : Declaration → Option DirectiveDef
  | .directive found => some found
  | _ => none

/-- The entries of a schema definition. -/
def roots? : Declaration → Option (List (OperationKind × String))
  | .roots entries => some entries
  | _ => none

/-- The name of the type that is extended. -/
def extended? : Declaration → Option String
  | .extension name _ => some name
  | _ => none

/-- The members that are added to the type of a name. -/
def members? (name : String) : Declaration → Option Members
  | .extension other members => if other = name then some members else none
  | _ => none

end Declaration

theorem TypeDef.name_ofDefinition (definition : TypeDefinition) :
    (ofDefinition definition).name = definition.name.text := by
  unfold ofDefinition
  cases definition.body <;> rfl

namespace Schema

namespace Draft

/-- Add what a declaration defines. -/
def declare (draft : Draft) : Declaration → Except LoadError Draft
  | .type type =>
    if draft.types.contains type.name then .error (.duplicateType type.name)
    else .ok { draft with types := draft.types.insert type.name type }
  | .directive directive =>
    if draft.directives.contains directive.name then .error (.duplicateDirective directive.name)
    else .ok { draft with directives := draft.directives.insert directive.name directive }
  | .roots entries => .ok { draft with roots := some (draft.roots.getD [] ++ entries) }
  | .extension _ _ => .ok draft

/-- Add what a declaration adds to a type. -/
def amend (draft : Draft) : Declaration → Except LoadError Draft
  | .extension name members =>
    match draft.types.get? name with
    | none => .error (.unknownExtendedType name)
    | some type => .ok { draft with types := draft.types.insert name (type.add members) }
  | .type _ | .directive _ | .roots _ => .ok draft

theorem define_eq_declare (draft : Draft) (definition : Definition) :
    draft.define definition =
      match Declaration.ofDefinition? definition with
      | some declaration => draft.declare declaration
      | none => .ok draft := by
  cases definition with
  | type definition =>
      simp only [Declaration.ofDefinition?, declare, TypeDef.name_ofDefinition]
      rfl
  | extendType definition =>
      simp only [Declaration.ofDefinition?]
      cases Members.ofBody? definition.body <;> rfl
  | operation | fragment | schema | directive | extendSchema => rfl

theorem extend_eq_amend (draft : Draft) (definition : Definition) :
    draft.extend definition =
      match Declaration.ofDefinition? definition with
      | some declaration => draft.amend declaration
      | none => .ok draft := by
  cases definition with
  | extendType definition =>
      obtain ⟨description, name, directives, body⟩ := definition
      cases body <;> rfl
  | operation | fragment | schema | directive | type | extendSchema => rfl

end Draft

/-- A step that only looks at what a definition declares can be made on declarations. -/
theorem foldlM_ofDefinitions {step : Draft → Definition → Except LoadError Draft}
    {take : Draft → Declaration → Except LoadError Draft}
    (h : ∀ draft definition, step draft definition =
      match Declaration.ofDefinition? definition with
      | some declaration => take draft declaration
      | none => .ok draft)
    (draft : Draft) (definitions : List Definition) :
    definitions.foldlM step draft = (Declaration.ofDefinitions definitions).foldlM take draft := by
  induction definitions generalizing draft with
  | nil => rfl
  | cons definition rest ih =>
      rw [List.foldlM_cons, h, Declaration.ofDefinitions, List.filterMap_cons]
      cases Declaration.ofDefinition? definition with
      | none => exact ih draft
      | some declaration =>
          rw [List.foldlM_cons]
          exact congrArg (take draft declaration >>= ·) (funext ih)

/-- A schema takes from its definitions what they declare, and nothing else. -/
theorem ofDefinitions_eq_ok_iff {definitions : List Definition} {schema : Schema} :
    ofDefinitions definitions = .ok schema ↔
      ∃ defined extended,
        (Declaration.ofDefinitions definitions).foldlM Draft.declare .empty = .ok defined ∧
          (Declaration.ofDefinitions definitions).foldlM Draft.amend defined = .ok extended ∧
            extended.finish = .ok schema := by
  unfold ofDefinitions
  simp only [foldlM_ofDefinitions Draft.define_eq_declare,
    foldlM_ofDefinitions Draft.extend_eq_amend, bind_eq_ok_iff, exists_and_left]

end Schema

/-! ## Taking up definitions -/

namespace Table

variable {α : Type}

theorem put_of_not_mem {key : String} {entries : List (String × α)}
    (h : key ∉ entries.map Prod.fst) (value : α) :
    put key value entries = entries ++ [(key, value)] := by
  induction entries with
  | nil => rfl
  | cons entry rest ih =>
      rw [List.map_cons, List.mem_cons, not_or] at h
      rw [put, if_neg fun e ↦ h.1 e.symm, ih h.2, List.cons_append]

/-- A value under a new name comes last. -/
theorem entries_insert_of_not_contains {table : Table α} {key : String}
    (h : table.contains key = false) (value : α) :
    (table.insert key value).entries = table.entries ++ [(key, value)] := by
  refine put_of_not_mem (fun hmem ↦ ?_) value
  have hcontains : table.contains key = true := (table.mem_keys_iff key).mp hmem
  rw [h] at hcontains
  cases hcontains

/-- A table does not have the name of an entry that can stand after its own. -/
theorem not_contains_of_entries_eq {table extended : Table α} {entry : String × α}
    (h : extended.entries = table.entries ++ [entry]) : table.contains entry.1 = false := by
  have hnodup := extended.nodup
  rw [h, List.map_append, List.nodup_append] at hnodup
  refine Bool.eq_false_iff.mpr fun hcontains ↦ ?_
  exact hnodup.2.2 entry.1 ((table.mem_keys_iff entry.1).mpr hcontains) entry.1 (by simp) rfl

/-- The first entries of a table. -/
def ofPrefix {table : Table α} {entries : List (String × α)} (h : entries <+: table.entries) :
    Table α :=
  ⟨entries, table.nodup.sublist (h.sublist.map Prod.fst)⟩

end Table

namespace Schema.Draft

/-- The second draft is the first with all that the declarations define, in order. -/
structure Adds (draft : Draft) (declarations : List Declaration) (defined : Draft) : Prop where
  types : defined.types.entries =
    draft.types.entries ++
      (declarations.filterMap Declaration.type?).map fun type ↦ (type.name, type)
  directives : defined.directives.entries =
    draft.directives.entries ++
      (declarations.filterMap Declaration.directive?).map fun directive ↦
        (directive.name, directive)
  roots : defined.roots =
    (declarations.filterMap Declaration.roots?).foldl
      (fun found entries ↦ some (found.getD [] ++ entries)) draft.roots

namespace Adds

variable {draft defined : Draft} {first second : List Declaration}

theorem refl (draft : Draft) : draft.Adds [] draft :=
  ⟨(List.append_nil _).symm, (List.append_nil _).symm, rfl⟩

theorem append {middle : Draft} (hfirst : draft.Adds first middle)
    (hsecond : middle.Adds second defined) : draft.Adds (first ++ second) defined where
  types := by simp [hsecond.types, hfirst.types]
  directives := by simp [hsecond.directives, hfirst.directives]
  roots := by rw [hsecond.roots, hfirst.roots, List.filterMap_append, List.foldl_append]

/-- What is added to a draft determines the result. -/
theorem unique {other : Draft} (h : draft.Adds first defined) (hother : draft.Adds first other) :
    defined = other := by
  have htypes := Table.eq_of_entries_eq (h.types.trans hother.types.symm)
  have hdirectives := Table.eq_of_entries_eq (h.directives.trans hother.directives.symm)
  have hroots := h.roots.trans hother.roots.symm
  cases defined
  cases other
  cases htypes
  cases hdirectives
  cases hroots
  rfl

/-- What is added at once can be added in two steps. -/
theorem exists_of_append (h : draft.Adds (first ++ second) defined) :
    ∃ middle, draft.Adds first middle ∧ middle.Adds second defined := by
  have htypes := h.types
  rw [List.filterMap_append, List.map_append, ← List.append_assoc] at htypes
  have hdirectives := h.directives
  rw [List.filterMap_append, List.map_append, ← List.append_assoc] at hdirectives
  have hroots := h.roots
  rw [List.filterMap_append, List.foldl_append] at hroots
  exact ⟨⟨.ofPrefix ⟨_, htypes.symm⟩, .ofPrefix ⟨_, hdirectives.symm⟩, _⟩, ⟨rfl, rfl, rfl⟩,
    ⟨htypes, hdirectives, hroots⟩⟩

end Adds

variable {draft : Draft}

theorem adds_of_declare {declaration : Declaration} {defined : Draft}
    (h : draft.declare declaration = .ok defined) : draft.Adds [declaration] defined := by
  cases declaration with
  | type type =>
      simp only [declare] at h
      split at h
      · cases h
      · next hnew =>
          cases h
          exact ⟨Table.entries_insert_of_not_contains (by simpa using hnew) type,
            (List.append_nil _).symm, rfl⟩
  | directive directive =>
      simp only [declare] at h
      split at h
      · cases h
      · next hnew =>
          cases h
          exact ⟨(List.append_nil _).symm,
            Table.entries_insert_of_not_contains (by simpa using hnew) directive, rfl⟩
  | roots entries =>
      cases h
      exact ⟨(List.append_nil _).symm, (List.append_nil _).symm, rfl⟩
  | extension name members =>
      cases h
      exact ⟨(List.append_nil _).symm, (List.append_nil _).symm, rfl⟩

theorem exists_declare_of_adds {declaration : Declaration} {defined : Draft}
    (h : draft.Adds [declaration] defined) : ∃ next, draft.declare declaration = .ok next := by
  cases declaration with
  | type type =>
      have hnew := Table.not_contains_of_entries_eq h.types
      exact ⟨_, if_neg (Bool.eq_false_iff.mp hnew)⟩
  | directive directive =>
      have hnew := Table.not_contains_of_entries_eq h.directives
      exact ⟨_, if_neg (Bool.eq_false_iff.mp hnew)⟩
  | roots | extension => exact ⟨_, rfl⟩

/-- A declaration is taken up exactly if what it defines can be added. -/
theorem declare_eq_ok_iff {declaration : Declaration} {defined : Draft} :
    draft.declare declaration = .ok defined ↔ draft.Adds [declaration] defined := by
  refine ⟨adds_of_declare, fun h ↦ ?_⟩
  obtain ⟨next, hnext⟩ := exists_declare_of_adds h
  rw [hnext, (adds_of_declare hnext).unique h]

/-- Declarations are taken up exactly if all that they define can be added. -/
theorem foldlM_declare_eq_ok_iff {declarations : List Declaration} {defined : Draft} :
    declarations.foldlM declare draft = .ok defined ↔ draft.Adds declarations defined := by
  induction declarations generalizing draft with
  | nil =>
      rw [foldlM_nil_eq_ok_iff]
      constructor
      · rintro rfl
        exact .refl _
      · intro h
        exact h.unique (.refl draft)
  | cons declaration rest ih =>
      rw [foldlM_cons_eq_ok_iff]
      constructor
      · rintro ⟨next, hnext, hrest⟩
        exact (declare_eq_ok_iff.mp hnext).append (ih.mp hrest)
      · intro h
        have hboth : draft.Adds ([declaration] ++ rest) defined := h
        obtain ⟨next, hnext, hrest⟩ := hboth.exists_of_append
        exact ⟨next, declare_eq_ok_iff.mpr hnext, ih.mpr hrest⟩

/-! ## Taking up extensions -/

/-- In the second draft every type has the members that the declarations add to it, in order. -/
structure Amends (draft : Draft) (declarations : List Declaration) (extended : Draft) : Prop where
  types : ∀ name, extended.types.get? name =
    (draft.types.get? name).map fun type ↦
      (declarations.filterMap (·.members? name)).foldl TypeDef.add type
  directives : extended.directives = draft.directives
  roots : extended.roots = draft.roots

namespace Amends

variable {extended : Draft} {first second : List Declaration}

theorem refl (draft : Draft) : draft.Amends [] draft :=
  ⟨fun _ ↦ by simp, rfl, rfl⟩

theorem append {middle : Draft} (hfirst : draft.Amends first middle)
    (hsecond : middle.Amends second extended) : draft.Amends (first ++ second) extended where
  types := fun name ↦ by
    rw [hsecond.types, hfirst.types, Option.map_map, List.filterMap_append]
    simp only [List.foldl_append, Function.comp_def]
  directives := hsecond.directives.trans hfirst.directives
  roots := hsecond.roots.trans hfirst.roots

/-- No type is new. -/
theorem contains (h : draft.Amends first extended) (name : String) :
    extended.types.contains name = draft.types.contains name := by
  unfold Table.contains
  rw [h.types, Option.isSome_map]

end Amends

theorem amends_of_amend {declaration : Declaration} {extended : Draft}
    (h : draft.amend declaration = .ok extended) : draft.Amends [declaration] extended := by
  cases declaration with
  | extension name members =>
      simp only [amend] at h
      split at h
      · cases h
      · next type htype =>
          cases h
          refine ⟨fun other ↦ ?_, rfl, rfl⟩
          rw [Table.get?_insert]
          by_cases hname : other = name
          · subst hname
            simp [htype, Declaration.members?]
          · have hother : ¬ name = other := fun e ↦ hname e.symm
            simp [hname, hother, Declaration.members?]
  | type | directive | roots =>
      cases h
      exact ⟨fun _ ↦ by simp [Declaration.members?], rfl, rfl⟩

theorem exists_amend_iff {declaration : Declaration} :
    (∃ extended, draft.amend declaration = .ok extended) ↔
      ∀ name ∈ declaration.extended?, draft.types.contains name = true := by
  cases declaration with
  | extension name members =>
      simp only [amend, Declaration.extended?, Table.contains, Option.mem_some_iff, forall_eq']
      cases draft.types.get? name <;> simp
  | type | directive | roots => simp [amend, Declaration.extended?]

theorem amends_of_foldlM_amend {declarations : List Declaration} {extended : Draft}
    (h : declarations.foldlM amend draft = .ok extended) : draft.Amends declarations extended := by
  induction declarations generalizing draft with
  | nil =>
      rw [foldlM_nil_eq_ok_iff.mp h]
      exact .refl draft
  | cons declaration rest ih =>
      obtain ⟨next, hnext, hrest⟩ := foldlM_cons_eq_ok_iff.mp h
      exact (amends_of_amend hnext).append (ih hrest)

/-- Extensions are taken up exactly if all types that they extend are there. -/
theorem exists_foldlM_amend_iff {declarations : List Declaration} :
    (∃ extended, declarations.foldlM amend draft = .ok extended) ↔
      ∀ declaration ∈ declarations, ∀ name ∈ declaration.extended?,
        draft.types.contains name = true := by
  induction declarations generalizing draft with
  | nil => exact ⟨fun _ _ h ↦ absurd h List.not_mem_nil, fun _ ↦ ⟨draft, rfl⟩⟩
  | cons declaration rest ih =>
      rw [List.forall_mem_cons, ← exists_amend_iff]
      simp only [foldlM_cons_eq_ok_iff]
      cases hnext : draft.amend declaration with
      | error cause => simp
      | ok next =>
          -- The types that are there stay there.
          have hcontains := (amends_of_amend hnext).contains
          simp [ih, hcontains]

/-! ## Completion -/

/-- Which root types are there depends on the names of the types only. -/
theorem declaredRoots_congr {types other : Table TypeDef}
    (h : ∀ name, types.contains name = other.contains name) (roots : Roots)
    (entries : List (OperationKind × String)) :
    declaredRoots types roots entries = declaredRoots other roots entries := by
  induction entries generalizing roots with
  | nil => rfl
  | cons entry rest ih => simp only [declaredRoots, h, ih]

theorem customaryRoots_congr {types other : Table TypeDef}
    (h : ∀ name, types.contains name = other.contains name) :
    customaryRoots types = customaryRoots other := by
  simp only [customaryRoots, h]

/-- The root types of a draft: those that its schema definitions name, or the customary ones. -/
def chosenRoots (draft : Draft) : Except LoadError Roots :=
  match draft.roots with
  | some entries => declaredRoots draft.completeTypes .none entries
  | none => .ok (customaryRoots draft.completeTypes)

theorem finish_eq_map_chosenRoots (draft : Draft) :
    draft.finish =
      draft.chosenRoots.map fun roots ↦
        ⟨draft.completeTypes, draft.completeDirectives, roots⟩ := by
  unfold finish chosenRoots
  cases draft.roots with
  | none => rfl
  | some entries =>
      simp only
      cases declaredRoots draft.completeTypes .none entries <;> rfl

/-- A draft is completed with its own types and directives, and with the roots that it chooses. -/
theorem finish_eq_ok_iff {schema : Schema} :
    draft.finish = .ok schema ↔
      schema.types = draft.completeTypes ∧ schema.directives = draft.completeDirectives ∧
        draft.chosenRoots = .ok schema.roots := by
  obtain ⟨types, directives, roots⟩ := schema
  rw [finish_eq_map_chosenRoots]
  cases draft.chosenRoots with
  | error cause => simp [Except.map]
  | ok chosen => simp [Except.map, eq_comm]

end Schema.Draft

end QueryLint
