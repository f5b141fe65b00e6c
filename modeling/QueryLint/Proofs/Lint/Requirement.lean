import QueryLint.Lint.Rules.RequiredFields
import QueryLint.Proofs.Lint.Dispatch
import QueryLint.Proofs.Schema.Resolution
import QueryLint.Proofs.Tracking.Agreement
import QueryLint.Proofs.Walk.Requests

/-!
# Every missing required field is reported

Main statement: `Linter.check_requiredFields`. The rule reports at a fragment or at a field the
required names, in their order, that the object or interface there has among its fields and that are
not within reach of its own selection set. The object or interface is looked up by its name: that of
the condition of the fragment, or the innermost one of the type of the field.
-/

namespace QueryLint

open QueryLint.Language

/-- The fields of the type of this name, if it is an object or an interface. -/
def Schema.fieldsOf (schema : Schema) (name : String) : Option (Table FieldDef) :=
  match schema.type? name with
  | some type =>
      if type.kind = .object ∨ type.kind = .interface then some type.fields else none
  | none => none

/-- The required names that an object or an interface has among its fields and that are not within
reach of the selection set, if there is one. -/
def Schema.omissions (schema : Schema) (required : List String) (typeName : String)
    (selections : Option SelectionSet) : List String :=
  match schema.fieldsOf typeName with
  | some fields =>
      required.filter fun name ↦
        name ∈ fields.keys ∧ ∀ set ∈ selections, ¬ set.Reaches name
  | none => []

/-- The messages about the required names that are missing at a site. Only fragments and fields have
any; a field has none unless the type it is selected on knows it. -/
def Site.omissions (schema : Schema) (required : List String) (site : Site) : List String :=
  match site.node with
  | .fragment fragment =>
      (schema.omissions required fragment.condition.text (some fragment.selections)).map
        fun name ↦
          "'" ++ name ++ "' field required on 'fragment " ++ fragment.name.text ++ " on " ++
            fragment.condition.text ++ "'"
  | .field field =>
      match site.context.parent.bind (·.selectable? field.name.text) with
      | some definition =>
          (schema.omissions required definition.type.name field.selections).map fun name ↦
            "'" ++ name ++ "' field required on '" ++ field.name.text ++ "'"
      | none => []
  | _ => []

/-- What a type in force at a field or a fragment offers are the fields of its innermost name. -/
theorem Schema.any_offers_yields (schema : Schema) (type : TypeRef) (name : String) :
    (schema.yields type).any (·.offers name) = true ↔
      ∃ fields, schema.fieldsOf type.name = some fields ∧ name ∈ fields.keys := by
  unfold yields fieldsOf
  rw [← schema.map_namedType_resolve? type]
  cases schema.resolve? type with
  | none => simp
  | some found =>
      have hoffers := found.offers_eq_any_fieldMap name
      cases hkind : found.namedType.kind <;>
        simp [hkind, hoffers, TypeDef.fieldMap, TypeKind.hasFields, Table.mem_keys_iff,
          Table.contains]

theorem isRequested_iff (selections : Option SelectionSet) (name : String) :
    isRequested selections name = true ↔ ∃ set ∈ selections, set.Reaches name := by
  unfold isRequested
  cases selections with
  | none => simp
  | some set => simp [SelectionSet.requests_iff_reaches]

/-- The names that the rule misses under a type in force are the omissions of its innermost name. -/
theorem Rules.missingFields_yields (schema : Schema) (required : List String) (type : TypeRef)
    (selections : Option SelectionSet) :
    missingFields required (schema.yields type) selections =
      schema.omissions required type.name selections := by
  unfold missingFields Schema.omissions
  cases hfields : schema.fieldsOf type.name with
  | none =>
      refine List.filter_eq_nil_iff.2 fun name _ ↦ ?_
      have hnone : ¬ (schema.yields type).any (·.offers name) = true := by
        rw [schema.any_offers_yields type name, hfields]
        rintro ⟨fields, hnone, -⟩
        cases hnone
      simp [hnone]
  | some fields =>
      refine List.filter_congr fun name _ ↦ ?_
      have hoffers : (schema.yields type).any (·.offers name) = true ↔ name ∈ fields.keys := by
        rw [schema.any_offers_yields type name, hfields]
        simp
      have hrequested := isRequested_iff selections name
      rw [Bool.eq_iff_iff]
      simp only [Bool.and_eq_true, Bool.not_eq_true', ← Bool.not_eq_true, hoffers, hrequested,
        decide_eq_true_eq, not_exists, not_and]

/-- At a linked site the rule has the messages about the omissions there, in the order of the
required names. -/
theorem Rules.messages_requiredFields {schema : Schema} {site : Site} (h : site.Linked schema)
    (required : List String) :
    (requiredFields required).messages site = site.omissions schema required := by
  unfold Site.omissions
  cases hnode : site.node with
  | fragment fragment =>
      have htype := h.conditionType fragment hnode
      simp [Rule.messages, requiredFields, missingInFragment, hnode, Node.kind, htype,
        missingFields_yields, TypeRef.name]
  | field field =>
      have hfield := h.field field hnode
      have htype := h.fieldType field hnode
      -- The omissions look the field up on its parent; the rule goes by the field in force.
      simp only [← hfield]
      cases hdefinition : site.context.field with
      | none => simp [Rule.messages, requiredFields, missingInField, hnode, Node.kind, hdefinition]
      | some definition =>
          rw [hdefinition, Option.bind_some] at htype
          simp [Rule.messages, requiredFields, missingInField, hnode, Node.kind, hdefinition,
            htype, missingFields_yields]
  | _ => simp [Rule.messages, requiredFields, hnode, Node.kind]

/-- The diagnostics about the required names that are missing at a site. -/
def Site.omissionsAt (schema : Schema) (required : List String) (severity : Severity)
    (site : Site) : List Diagnostic :=
  (site.omissions schema required).map fun message ↦
    ⟨message, "required_fields", severity, [site.node.toRef]⟩

/-- A linter with the rule about required fields reports, in the order of the walk, at every
fragment and every field of a known type the required names that the type has and the selection set
does not reach, and nothing else. -/
theorem Linter.check_requiredFields (required : List String) (schema : Schema)
    (document : Document) (severity : Severity) :
    (empty.add (Rules.requiredFields required) severity).check schema document =
      (document.descent schema).flatMap (Site.omissionsAt schema required severity) := by
  have hsites : document.sites schema = document.descent schema :=
    (Tracker.covers_document schema document).sites_eq
  rw [← hsites]
  refine check_add_empty_of_linked (fun site h ↦ ?_) document
  rw [Rule.check, Rules.messages_requiredFields h]
  rfl

end QueryLint
