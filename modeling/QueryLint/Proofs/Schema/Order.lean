import QueryLint.Proofs.Schema.Declarations
import QueryLint.Proofs.Schema.Inclusion

/-!
# The order of definitions

Main statement: `Schema.ofDefinitions_reordered`. Definitions can stand in any order, as long as the
schema definitions keep theirs and so do the extensions of each type. In particular a type can be
extended before it is defined.

The order is one of what the definitions declare. So a list of definitions can be permuted, and a
text can have its definitions moved, although they stand at other positions then.

What is defined makes the same entries in another order, and each type gets the same members in the
same order. Drafts whose tables only differ in the order of their entries are `Draft.Alike`.
-/

namespace QueryLint

open QueryLint.Language

/-- The same declarations in another order, in which the schema definitions stand as before among
each other, and so do the extensions of every type. -/
structure Reordered (first second : List Declaration) : Prop where
  perm : first.Perm second
  roots : first.filterMap Declaration.roots? = second.filterMap Declaration.roots?
  members : ∀ name, first.filterMap (·.members? name) = second.filterMap (·.members? name)

/-- Nothing is added to a type that is not extended. -/
theorem Declaration.filterMap_members?_eq_nil {declarations : List Declaration} {name : String}
    (h : name ∉ declarations.filterMap extended?) :
    declarations.filterMap (members? name) = [] := by
  refine List.filterMap_eq_nil_iff.mpr fun declaration hmem ↦ ?_
  cases declaration with
  | extension other members =>
      refine if_neg fun hname ↦ h ?_
      exact List.mem_filterMap.mpr ⟨_, hmem, congrArg some hname⟩
  | type | directive | roots => rfl

/-- Only the types that are extended matter. -/
theorem reordered_iff {first second : List Declaration} :
    Reordered first second ↔
      first.Perm second ∧
        first.filterMap Declaration.roots? = second.filterMap Declaration.roots? ∧
          ∀ name ∈ first.filterMap Declaration.extended?,
            first.filterMap (·.members? name) = second.filterMap (·.members? name) := by
  refine ⟨fun h ↦ ⟨h.perm, h.roots, fun name _ ↦ h.members name⟩, ?_⟩
  rintro ⟨hperm, hroots, hmembers⟩
  refine ⟨hperm, hroots, fun name ↦ ?_⟩
  by_cases hname : name ∈ first.filterMap Declaration.extended?
  · exact hmembers name hname
  · have hsecond := fun h ↦ hname ((hperm.filterMap Declaration.extended?).mem_iff.mpr h)
    exact (Declaration.filterMap_members?_eq_nil hname).trans
      (Declaration.filterMap_members?_eq_nil hsecond).symm

instance (first second : List Declaration) : Decidable (Reordered first second) :=
  decidable_of_iff _ reordered_iff.symm

theorem Reordered.symm {first second : List Declaration} (h : Reordered first second) :
    Reordered second first :=
  ⟨h.perm.symm, h.roots.symm, fun name ↦ (h.members name).symm⟩

/-- Both schemas have the same type and the same directive under every name, and the same root
types. -/
structure Schema.Agrees (schema other : Schema) : Prop where
  type? : ∀ name, schema.type? name = other.type? name
  directive? : ∀ name, schema.directive? name = other.directive? name
  roots : schema.roots = other.roots

namespace Schema.Draft

/-- The tables of both drafts are alike, and the roots are the same. -/
structure Alike (draft other : Draft) : Prop where
  types : draft.types.Alike other.types
  directives : draft.directives.Alike other.directives
  roots : draft.roots = other.roots

variable {first second : List Declaration}

/-- What is defined can be defined in another order. -/
theorem exists_adds_of_reordered (h : Reordered first second) {defined : Draft}
    (hdefined : empty.Adds first defined) :
    ∃ other, empty.Adds second other ∧ defined.Alike other := by
  have htypes : defined.types.entries.Perm
      ((second.filterMap Declaration.type?).map fun type ↦ (type.name, type)) := by
    rw [hdefined.types]
    exact (h.perm.filterMap Declaration.type?).map _
  have hdirectives : defined.directives.entries.Perm
      ((second.filterMap Declaration.directive?).map fun directive ↦
        (directive.name, directive)) := by
    rw [hdefined.directives]
    exact (h.perm.filterMap Declaration.directive?).map _
  refine ⟨⟨.ofPerm htypes, .ofPerm hdirectives, defined.roots⟩, ⟨rfl, rfl, ?_⟩, ⟨?_, ?_, rfl⟩⟩
  · rw [hdefined.roots, h.roots]
  · exact Table.alike_of_perm htypes
  · exact Table.alike_of_perm hdirectives

/-- What is extended can be extended in another order. -/
theorem Alike.exists_foldlM_amend (h : Reordered first second) {defined other extended : Draft}
    (halike : defined.Alike other) (hextended : first.foldlM amend defined = .ok extended) :
    ∃ result, second.foldlM amend other = .ok result ∧ extended.Alike result := by
  have hknown := exists_foldlM_amend_iff.mp ⟨extended, hextended⟩
  obtain ⟨result, hresult⟩ : ∃ result, second.foldlM amend other = .ok result :=
    exists_foldlM_amend_iff.mpr fun declaration hmem name hname ↦ by
      rw [← halike.types.contains name]
      exact hknown declaration (h.perm.mem_iff.mpr hmem) name hname
  have hfirst := amends_of_foldlM_amend hextended
  have hsecond := amends_of_foldlM_amend hresult
  refine ⟨result, hresult, fun name ↦ ?_, ?_, ?_⟩
  · rw [hfirst.types, hsecond.types, halike.types name, h.members name]
  · rw [hfirst.directives, hsecond.directives]
    exact halike.directives
  · rw [hfirst.roots, hsecond.roots, halike.roots]

/-- Alike drafts are completed alike. -/
theorem Alike.exists_finish {draft other : Draft} (h : draft.Alike other) {schema : Schema}
    (hschema : draft.finish = .ok schema) :
    ∃ result, other.finish = .ok result ∧ schema.Agrees result := by
  have htypes : draft.completeTypes.Alike other.completeTypes :=
    h.types.foldl_insertNew id _ builtinScalars
  have hdirectives : draft.completeDirectives.Alike other.completeDirectives :=
    h.directives.foldl_insertNew DirectiveDef.name id builtinDirectives
  have hroots : draft.chosenRoots = other.chosenRoots := by
    unfold chosenRoots
    rw [h.roots]
    simp only [declaredRoots_congr htypes.contains, customaryRoots_congr htypes.contains]
  rw [finish_eq_map_chosenRoots, hroots] at hschema
  rw [finish_eq_map_chosenRoots]
  cases hchosen : other.chosenRoots with
  | error cause =>
      rw [hchosen] at hschema
      cases hschema
  | ok roots =>
      rw [hchosen] at hschema
      cases hschema
      refine ⟨⟨other.completeTypes, other.completeDirectives, roots⟩, rfl, ?_, ?_, rfl⟩
      · intro name
        simp only [type?, htypes name]
      · intro name
        simp only [directive?, hdirectives name]

end Schema.Draft

namespace Schema

variable {first second : List Definition}

theorem exists_ofDefinitions_of_reordered
    (h : Reordered (Declaration.ofDefinitions first) (Declaration.ofDefinitions second))
    {schema : Schema} (hschema : ofDefinitions first = .ok schema) :
    ∃ other, ofDefinitions second = .ok other ∧ schema.Agrees other := by
  obtain ⟨defined, extended, hdefined, hextended, hfinish⟩ := ofDefinitions_eq_ok_iff.mp hschema
  obtain ⟨otherDefined, hother, halike⟩ :=
    Draft.exists_adds_of_reordered h (Draft.foldlM_declare_eq_ok_iff.mp hdefined)
  obtain ⟨otherExtended, hotherExtended, halike⟩ := halike.exists_foldlM_amend h hextended
  obtain ⟨other, hotherFinish, hagrees⟩ := halike.exists_finish hfinish
  have hotherDefined := Draft.foldlM_declare_eq_ok_iff.mpr hother
  exact ⟨other, ofDefinitions_eq_ok_iff.mpr
    ⟨otherDefined, otherExtended, hotherDefined, hotherExtended, hotherFinish⟩, hagrees⟩

/-- Definitions in another order define a schema exactly if they did before, and then one with the
same types, members in order included, the same directives and the same root types. -/
theorem ofDefinitions_reordered
    (h : Reordered (Declaration.ofDefinitions first) (Declaration.ofDefinitions second)) :
    ((∃ schema, ofDefinitions first = .ok schema) ↔
        ∃ schema, ofDefinitions second = .ok schema) ∧
      ∀ schema other, ofDefinitions first = .ok schema → ofDefinitions second = .ok other →
        schema.Agrees other := by
  refine ⟨⟨?_, ?_⟩, ?_⟩
  · rintro ⟨schema, hschema⟩
    obtain ⟨other, hother, -⟩ := exists_ofDefinitions_of_reordered h hschema
    exact ⟨other, hother⟩
  · rintro ⟨schema, hschema⟩
    obtain ⟨other, hother, -⟩ := exists_ofDefinitions_of_reordered h.symm hschema
    exact ⟨other, hother⟩
  · intro schema other hschema hother
    obtain ⟨result, hresult, hagrees⟩ := exists_ofDefinitions_of_reordered h hschema
    rw [hother] at hresult
    cases hresult
    exact hagrees

/-- Types are found with all their fields, whether they are extended after their definition or
before. -/
theorem ofDefinitions_reordered_extended_first :
    let definitions (text : String) := (Document.read text).toOption.elim [] (·.definitions)
    let first := definitions <|
      "type Query \x7b id: ID \x7d scalar Time extend type Query \x7b at: Time \x7d " ++
        "extend type Query \x7b by: ID \x7d"
    let second := definitions <|
      "extend type Query \x7b at: Time \x7d type Query \x7b id: ID \x7d " ++
        "extend type Query \x7b by: ID \x7d scalar Time"
    Reordered (Declaration.ofDefinitions first) (Declaration.ofDefinitions second) ∧
      ∃ schema other, ofDefinitions first = .ok schema ∧ ofDefinitions second = .ok other ∧
        schema.Agrees other ∧
          (schema.type? "Query").map (·.fields.keys) = some ["id", "at", "by"] := by
  intro definitions first second
  have hreordered : Reordered (Declaration.ofDefinitions first)
      (Declaration.ofDefinitions second) := by
    decide +kernel
  have hkeys : (ofDefinitions first).toOption.map
      (fun schema ↦ (schema.type? "Query").map (·.fields.keys)) =
        some (some ["id", "at", "by"]) := by
    decide +kernel
  obtain ⟨hsuccess, hagrees⟩ := ofDefinitions_reordered hreordered
  cases hschema : ofDefinitions first with
  | error cause =>
      rw [hschema] at hkeys
      cases hkeys
  | ok schema =>
      obtain ⟨other, hother⟩ := hsuccess.mp ⟨schema, hschema⟩
      rw [hschema] at hkeys
      exact ⟨hreordered, schema, other, rfl, hother, hagrees schema other hschema hother,
        Option.some.inj hkeys⟩

end Schema

end QueryLint
