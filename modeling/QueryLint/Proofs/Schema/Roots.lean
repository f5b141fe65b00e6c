import QueryLint.Proofs.Schema.Contents

/-!
# The root types of a schema

A schema has at most one root type for each kind of operation. Main statement:
`Schema.get_roots_of_ofDefinitions`, which reads the name of the root type off the definitions. Where
there is a schema definition, of all entries of the kind that give a name the last one counts, and
the customary names mean nothing; otherwise the customary name counts if a type has it.
-/

namespace QueryLint

open QueryLint.Language

/-- The name that the root type of a kind has by custom. -/
def Language.OperationKind.customaryRoot : OperationKind → String
  | query => "Query"
  | mutation => "Mutation"
  | subscription => "Subscription"

/-- The name that an entry of a schema definition gives to the root type of a kind. -/
def Language.RootDefinition.rootName? (kind : OperationKind) (root : RootDefinition) :
    Option String :=
  if root.kind = kind then root.type.map (·.text) else none

namespace Schema

/-- The name of the root type of a kind. With schema definitions it is the one that the last of
their entries of this kind gives, in the order of the text; without one it is the customary name, if
a type of that name is defined. -/
def rootName? (definitions : List Definition) (kind : OperationKind) : Option String :=
  match definitions.filterMap Definition.schema? with
  | [] => if kind.customaryRoot ∈ typeNames definitions then some kind.customaryRoot else none
  | found => ((found.flatMap (·.roots)).filterMap (RootDefinition.rootName? kind)).getLast?

namespace Draft

/-- The name that an entry gives to the root type of a kind. -/
def entryName? (kind : OperationKind) (entry : OperationKind × String) : Option String :=
  if entry.1 = kind then some entry.2 else none

/-- The entries of a schema definition give the names that its complete entries give. -/
theorem filterMap_entryName?_rootEntries (kind : OperationKind) (definition : SchemaDefinition) :
    (rootEntries definition).filterMap (entryName? kind) =
      definition.roots.filterMap (RootDefinition.rootName? kind) := by
  rw [rootEntries, List.filterMap_filterMap]
  refine List.filterMap_congr fun root _ ↦ ?_
  cases htype : root.type with
  | none => simp [RootDefinition.rootName?, htype]
  | some name => simp [RootDefinition.rootName?, htype, entryName?]

/-- An entry sets the root type of its own kind, unless a later one sets it again. -/
theorem getLast?_entryName?_cons (roots : Roots) (kind : OperationKind)
    (entry : OperationKind × String) (rest : List (OperationKind × String)) :
    ((entry :: rest).filterMap (entryName? kind)).getLast?.or (roots.get kind) =
      (rest.filterMap (entryName? kind)).getLast?.or
        ((roots.set entry.1 (some entry.2)).get kind) := by
  rw [Roots.get_set]
  by_cases h : entry.1 = kind
  · have hname : entryName? kind entry = some entry.2 := if_pos h
    rw [List.filterMap_cons_some hname, List.getLast?_cons, if_pos h.symm]
    cases (rest.filterMap (entryName? kind)).getLast? <;> rfl
  · have hname : entryName? kind entry = none := if_neg h
    rw [List.filterMap_cons_none hname, if_neg (Ne.symm h)]

/-- Of the entries of a kind the last one counts; without one the root type stays as it was. -/
theorem get_of_declaredRoots {types : Table TypeDef} {roots chosen : Roots}
    {entries : List (OperationKind × String)}
    (h : declaredRoots types roots entries = .ok chosen) (kind : OperationKind) :
    chosen.get kind = (entries.filterMap (entryName? kind)).getLast?.or (roots.get kind) := by
  induction entries generalizing roots with
  | nil =>
      cases h
      rfl
  | cons entry rest ih =>
      rw [declaredRoots] at h
      split at h
      · rw [getLast?_entryName?_cons]
        exact ih h
      · cases h

theorem get_customaryRoots (types : Table TypeDef) (kind : OperationKind) :
    (customaryRoots types).get kind =
      if types.contains kind.customaryRoot then some kind.customaryRoot else none := by
  cases kind <;> rfl

end Draft

variable {definitions : List Definition} {schema : Schema}

/-- No customary name is that of a built-in scalar, so a type has it only if it is defined. -/
theorem contains_customaryRoot_iff (h : schema.Lists definitions) (kind : OperationKind) :
    schema.types.contains kind.customaryRoot = true ↔
      kind.customaryRoot ∈ typeNames definitions := by
  have hscalar : kind.customaryRoot ∉ builtinScalars := by cases kind <;> decide
  rw [Table.contains_iff, h.types, List.mem_append, List.mem_filter]
  constructor
  · rintro (hdefined | ⟨hbuiltin, -⟩)
    · exact hdefined
    · exact absurd hbuiltin hscalar
  · exact .inl

/-- The root types of a schema have the names that its definitions give. -/
theorem get_roots_of_ofDefinitions (h : ofDefinitions definitions = .ok schema)
    (kind : OperationKind) : schema.roots.get kind = rootName? definitions kind := by
  have hchosen := chosenRoots_of_ofDefinitions h
  have hcustomary := contains_customaryRoot_iff (lists_of_ofDefinitions h) kind
  unfold rootName?
  unfold declaredEntries? at hchosen
  cases hfound : definitions.filterMap Definition.schema? with
  | nil =>
      rw [hfound] at hchosen
      have hroots : Draft.customaryRoots schema.types = schema.roots := Except.ok.inj hchosen
      rw [← hroots, Draft.get_customaryRoots]
      simp only [hcustomary]
  | cons first rest =>
      rw [hfound] at hchosen
      have hnone : Roots.none.get kind = none := by cases kind <;> rfl
      have hnames : ((first :: rest).flatMap Draft.rootEntries).filterMap (Draft.entryName? kind) =
          ((first :: rest).flatMap (·.roots)).filterMap (RootDefinition.rootName? kind) := by
        rw [List.filterMap_flatMap, List.filterMap_flatMap]
        exact List.flatMap_congr fun found _ ↦ Draft.filterMap_entryName?_rootEntries kind found
      rw [Draft.get_of_declaredRoots hchosen kind, hnone, Option.or_none, hnames]

end Schema

end QueryLint
