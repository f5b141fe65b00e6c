import QueryLint.Lint.Rules.RequiredFields
import QueryLint.Proofs.Lint.Growth
import QueryLint.Proofs.Outcome
import QueryLint.Proofs.Schema.Layers
import QueryLint.Proofs.Tracking.Agreement

/-!
# Fields that can be required

Two look-ups tell whether a type has a field. The rule about required fields asks whether a type in
force offers the field, below its layers; a tracker asks whether the field can be selected on the
type. Main statement: `Schema.resolve?_offers_iff_selectable`. On an object or an interface the two
have the same answer for every name but `__typename`, which can be selected on every composite type
and is offered only by a type that declares it (`Schema.load_selectable_not_offered`).
-/

namespace QueryLint

open QueryLint.Language

namespace TypeDef

variable {type : TypeDef}

/-- The field of every composite type is what its name means there, declared or not. -/
theorem selectable?_typenameField (h : type.kind.isComposite = true) :
    type.selectable? typenameField = some typenameDef :=
  if_pos ⟨rfl, h⟩

/-- Any other name means a field of the type itself. -/
theorem selectable?_of_ne {name : String} (h : name ≠ typenameField) :
    type.selectable? name = type.field? name :=
  if_neg fun hmeta ↦ h hmeta.1

/-- The fields of an object or an interface are those in its table. -/
theorem isSome_field?_iff (h : type.kind.hasFields = true) (name : String) :
    (type.field? name).isSome ↔ name ∈ type.fields.keys := by
  rw [field?, fieldMap, if_pos h, Option.bind_some, Table.mem_keys_iff]

end TypeDef

/-- Objects and interfaces are the composite types with fields of their own. -/
theorem TypeKind.hasFields_and_isComposite {kind : TypeKind}
    (h : kind = .object ∨ kind = .interface) : kind.hasFields = true ∧ kind.isComposite = true := by
  rcases h with rfl | rfl
  · exact ⟨rfl, rfl⟩
  · exact ⟨rfl, rfl⟩

/-- The rule misses the required names that are offered and not requested. -/
theorem Rules.mem_missingFields_iff (required : List String) (type : Option ResolvedType)
    (selections : Option SelectionSet) (name : String) :
    name ∈ missingFields required type selections ↔
      name ∈ required ∧ type.any (·.offers name) = true ∧ isRequested selections name = false := by
  rw [missingFields, List.mem_filter, Bool.and_eq_true, Bool.not_eq_true']

namespace Schema

variable {schema : Schema} {type : TypeRef} {owner : TypeDef}

/-- What a reference to an object or an interface offers are the fields of that type. -/
theorem any_offers_resolve?_iff_mem_keys (howner : schema.type? type.name = some owner)
    (hkind : owner.kind = .object ∨ owner.kind = .interface) (name : String) :
    (schema.resolve? type).any (·.offers name) = true ↔ name ∈ owner.fields.keys := by
  rw [schema.any_offers_resolve?_iff, howner]
  constructor
  · rintro ⟨other, hother, -, hname⟩
    cases hother
    exact hname
  · intro hname
    exact ⟨owner, rfl, hkind, hname⟩

/-- A name other than `__typename` is offered exactly if it can be selected. -/
theorem any_offers_resolve?_iff_isSome_selectable? (howner : schema.type? type.name = some owner)
    (hkind : owner.kind = .object ∨ owner.kind = .interface) {name : String}
    (hname : name ≠ TypeDef.typenameField) :
    (schema.resolve? type).any (·.offers name) = true ↔ (owner.selectable? name).isSome := by
  have hfields := (TypeKind.hasFields_and_isComposite hkind).1
  calc (schema.resolve? type).any (·.offers name) = true
      ↔ name ∈ owner.fields.keys := any_offers_resolve?_iff_mem_keys howner hkind name
    _ ↔ (owner.field? name).isSome := (TypeDef.isSome_field?_iff hfields name).symm
    _ ↔ (owner.selectable? name).isSome := by rw [TypeDef.selectable?_of_ne hname]

/-- Let a reference resolve to an object or an interface, under any layers. For every name other than
`__typename` the reference offers the field exactly if it can be selected on the type, so the rule
about required fields can miss it exactly where a tracker has a field in force when it is selected.
The field `__typename` can always be selected, and is offered only if the type declares it. -/
theorem resolve?_offers_iff_selectable (howner : schema.type? type.name = some owner)
    (hkind : owner.kind = .object ∨ owner.kind = .interface) :
    (∀ name, name ≠ TypeDef.typenameField →
      ((schema.resolve? type).any (·.offers name) = true ↔ (owner.selectable? name).isSome) ∧
        (∀ required selections,
          name ∈ Rules.missingFields required (schema.resolve? type) selections ↔
            name ∈ required ∧ (owner.selectable? name).isSome ∧
              isRequested selections name = false) ∧
        ∀ (document : Document) (site : Site) (field : Field), site ∈ document.sites schema →
          site.node = .field field → field.name.text = name → site.context.parent = some owner →
            (site.context.field.isSome ↔ (schema.resolve? type).any (·.offers name) = true)) ∧
      owner.selectable? TypeDef.typenameField = some TypeDef.typenameDef ∧
      ((schema.resolve? type).any (·.offers TypeDef.typenameField) = true ↔
        TypeDef.typenameField ∈ owner.fields.keys) := by
  refine ⟨fun name hname ↦ ?_, ?_, ?_⟩
  · have hoffers := any_offers_resolve?_iff_isSome_selectable? howner hkind hname
    refine ⟨hoffers, fun required selections ↦ ?_, ?_⟩
    · rw [Rules.mem_missingFields_iff, hoffers]
    · intro document site field hsite hnode htext hparent
      rw [(Site.linked_of_mem hsite).field field hnode, hparent, Option.bind_some, htext, hoffers]
  · exact TypeDef.selectable?_typenameField (TypeKind.hasFields_and_isComposite hkind).2
  · exact any_offers_resolve?_iff_mem_keys howner hkind TypeDef.typenameField

/-- A list of an interface under non-null layers offers the field that the interface declares, and
neither another one nor `__typename`. -/
theorem resolve?_offers_iff_selectable_listed :
    let schema := ofText "interface Node \x7b id: ID! \x7d type Query \x7b nodes: [Node!]! \x7d"
    let type : TypeRef := .nonNull (.list (.nonNull (.named "Node")))
    (schema.resolve? type).any (·.offers "id") = true ∧
      "id" ∈ Rules.missingFields ["key", "id"] (schema.resolve? type) none ∧
        "key" ∉ Rules.missingFields ["key", "id"] (schema.resolve? type) none ∧
          ¬ (schema.resolve? type).any (·.offers TypeDef.typenameField) = true := by
  intro schema type
  have hfound : (schema.type? "Node").any (fun owner ↦ owner.kind = .interface ∧
      (owner.selectable? "id").isSome ∧ (owner.selectable? "key").isSome = false ∧
        TypeDef.typenameField ∉ owner.fields.keys) = true := by
    decide +kernel
  obtain ⟨owner, hnode, hgood⟩ := (Option.any_eq_true _ _).mp hfound
  obtain ⟨hkind, hid, hkey, hmeta⟩ := of_decide_eq_true hgood
  have howner : schema.type? type.name = some owner := hnode
  obtain ⟨hnames, -, hdeclared⟩ := resolve?_offers_iff_selectable howner (.inr hkind)
  obtain ⟨hidOffered, hidMissed, -⟩ := hnames "id" (by decide)
  obtain ⟨-, hkeyMissed, -⟩ := hnames "key" (by decide)
  refine ⟨hidOffered.mpr hid, ?_, ?_, fun hoffered ↦ hmeta (hdeclared.mp hoffered)⟩
  · exact (hidMissed ["key", "id"] none).mpr ⟨by decide, hid, rfl⟩
  · intro hmissed
    obtain ⟨-, hselectable, -⟩ := (hkeyMissed ["key", "id"] none).mp hmissed
    rw [hkey] at hselectable
    cases hselectable

/-- On an object that does not declare it, `__typename` can be selected and is not offered. -/
theorem load_selectable_not_offered :
    ∃ schema owner, load "type Query \x7b id: ID \x7d" = .ok schema ∧
      schema.type? "Query" = some owner ∧ owner.kind = .object ∧
        (schema.resolve? (.named "Query")).any (·.offers TypeDef.typenameField) = false ∧
          (owner.selectable? TypeDef.typenameField).isSome = true := by
  have hfound : (load "type Query \x7b id: ID \x7d").toOption.any (fun schema ↦
      (schema.type? "Query").any (fun owner ↦ owner.kind = .object ∧
        TypeDef.typenameField ∉ owner.fields.keys)) = true := by
    decide +kernel
  obtain ⟨schema, hload, hquery⟩ := (Option.any_eq_true _ _).mp hfound
  obtain ⟨owner, howner, hgood⟩ := (Option.any_eq_true _ _).mp hquery
  obtain ⟨hkind, hmeta⟩ := of_decide_eq_true hgood
  refine ⟨schema, owner, toOption_eq_some_iff.mp hload, howner, hkind, ?_, ?_⟩
  · show (schema.resolve? (.named "Query")).any (·.offers TypeDef.typenameField) = false
    rw [Bool.eq_false_iff, ne_eq, any_offers_resolve?_iff_mem_keys howner (.inl hkind)]
    exact hmeta
  · have hcomposite := (TypeKind.hasFields_and_isComposite (.inl hkind)).2
    rw [TypeDef.selectable?_typenameField hcomposite, Option.isSome_some]

end Schema

end QueryLint
