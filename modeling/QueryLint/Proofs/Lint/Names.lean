import Mathlib
import QueryLint.Lint.Rules.OperationNames
import QueryLint.Lint.Rules.TypeNames
import QueryLint.Proofs.Grammar.Document
import QueryLint.Proofs.Lint.Dispatch
import QueryLint.Proofs.Lint.Separation
import QueryLint.Proofs.Walk.Namings

/-!
# What the rules about names report

Main statement: `Linter.check_names`. A linter with the two rules about names reports, in the order of
the walk, the operations without a name and the named types that do not begin with a capital letter.
These are read off the document, so the schema does not matter. In a document that has been read from
a text every type name begins with a letter or an underscore, and what is reported are those that
begin with a lower-case letter or an underscore.
-/

namespace QueryLint

open QueryLint.Language

/-! ## Characters -/

/-- Of the characters that can begin a name, the lower-case letters and the underscore are their own
lower-case forms. -/
theorem toLower_eq_self_iff_of_isNameStart {c : Char} (h : Scan.isNameStart c = true) :
    c.toLower = c ↔ c.isLower = true ∨ c = '_' := by
  have hclass : c.isUpper = true ∨ c.isLower = true ∨ c = '_' := by
    simpa [Scan.isNameStart, Char.isAlpha, or_assoc] using h
  constructor
  · intro hsame
    refine hclass.resolve_left fun hupper ↦ ?_
    have hlow : c.toLower.isUpper = false := c.isUpper_toLower_eq_false
    rw [hsame, hupper] at hlow
    cases hlow
  · rintro (hlower | rfl)
    · exact Char.toLower_eq_of_not_isUpper (Char.not_isUpper_of_isLower hlower)
    · rfl

namespace Language.Name

/-- The name begins with a character that is its own lower-case form. -/
def Uncapitalized (name : Name) : Prop :=
  ∃ first rest, name.text.toList = first :: rest ∧ first.toLower = first

theorem startsUncapitalized_iff (name : Name) :
    Rules.startsUncapitalized name.text = true ↔ name.Uncapitalized := by
  unfold Rules.startsUncapitalized Uncapitalized
  cases name.text.toList with
  | nil => simp
  | cons first rest => simp

instance (name : Name) : Decidable name.Uncapitalized :=
  decidable_of_iff _ (startsUncapitalized_iff name)

/-- What is spelled as a name begins so with a lower-case letter or an underscore. -/
theorem Spelled.uncapitalized_iff {name : Name} (h : name.Spelled) :
    name.Uncapitalized ↔
      ∃ first rest, name.text.toList = first :: rest ∧ (first.isLower = true ∨ first = '_') := by
  obtain ⟨first, rest, htext, hstart, -⟩ := h
  unfold Uncapitalized
  rw [htext]
  constructor
  · rintro ⟨other, others, hcons, hlow⟩
    cases hcons
    exact ⟨first, rest, rfl, (toLower_eq_self_iff_of_isNameStart hstart).mp hlow⟩
  · rintro ⟨other, others, hcons, hlow⟩
    cases hcons
    exact ⟨first, rest, rfl, (toLower_eq_self_iff_of_isNameStart hstart).mpr hlow⟩

end Language.Name

/-! ## Types in a document that has been read -/

namespace Language

/-- The types named in constructs, at any depth, are spelled as these say. -/
theorem Construct.spelled_of_mem_namings {row : List Construct} (h : ∀ here ∈ row, here.Spelled)
    {name : Name} (hname : .type name ∈ row.flatMap namings) : name.Spelled := by
  induction row using row_induction with
  | nil => cases hname
  | cons here rest ihparts ihrest =>
      obtain ⟨⟨hself, hparts⟩, hrest⟩ := List.forall_mem_cons.mp h
      rw [List.flatMap_cons, namings_eq, List.mem_append, List.mem_append] at hname
      rcases hname with (hhere | hinside) | hlater
      · obtain rfl := eq_namedType_of_naming? (Option.mem_toList.mp hhere)
        exact hself
      · unfold walkedParts at hinside
        split at hinside
        · exact ihparts hparts hinside
        · cases hinside
      · exact ihrest hrest hlater

theorem Document.spelled_of_mem_namings {text : String} {document : Document}
    (h : Document.read text = .ok document) {name : Name}
    (hname : .type name ∈ document.namings) : name.Spelled := by
  obtain ⟨it, hmem, hit⟩ := List.mem_flatMap.mp hname
  have hexecutable : it.isExecutable = true := by
    cases it with
    | operation | fragment => rfl
    | schema | directive | type | extendSchema | extendType => cases hit
  have hspelled := spelled_of_read h hmem hexecutable
  refine Construct.spelled_of_mem_namings (List.forall_mem_singleton.mpr hspelled) ?_
  rw [List.flatMap_singleton]
  exact hit

end Language

/-! ## Reports -/

/-- The diagnostic about a naming: an operation without a name is reported at the operation, a type
that does not begin with a capital letter at its name. -/
def Naming.finding? (operations types : Severity) : Naming → Option Diagnostic
  | .operation it =>
    if it.name = none then
      some ⟨"All operations must be named", "operations_must_have_names", operations,
        [⟨.operation, it.span⟩]⟩
    else none
  | .type name =>
    if name.Uncapitalized then
      some ⟨"All type names should start with a capital letter",
        "type_names_should_be_capitalized", types, [⟨.namedType, name.span⟩]⟩
    else none

namespace Rules

variable (operations types : Severity) (site : Site)

/-- At most one of the two rules about names looks at a site, and it reports the naming there. -/
theorem check_operationNames_append_typeNames :
    operationNames.check operations site ++ typeNames.check types site =
      (site.node.naming?.bind (Naming.finding? operations types)).toList := by
  cases hnode : site.node with
  | operation it =>
      by_cases h : it.name = none <;>
        simp [operationNames, typeNames, Rule.check, Rule.messages, unnamedOperation, hnode, h,
          Node.kind, Node.naming?, Naming.finding?, Node.toRef, Node.span]
  | namedType name =>
      have hlow := name.startsUncapitalized_iff
      by_cases h : name.Uncapitalized <;>
        simp [operationNames, typeNames, Rule.check, Rule.messages, uncapitalizedType, hnode, hlow,
          h, Node.kind, Node.naming?, Naming.finding?, Node.toRef, Node.span]
  | _ => simp [operationNames, typeNames, Rule.check, Rule.messages, hnode, Node.kind, Node.naming?]

/-- The order of the two rules does not matter, since no site is looked at by both. -/
theorem check_typeNames_append_operationNames :
    typeNames.check types site ++ operationNames.check operations site =
      operationNames.check operations site ++ typeNames.check types site := by
  by_cases hkind : site.node.kind = .operation
  · have htypes : typeNames.check types site = [] :=
      Rule.check_eq_nil (by rw [hkind]; decide) types
    rw [htypes, List.nil_append, List.append_nil]
  · have hoperations : operationNames.check operations site = [] :=
      Rule.check_eq_nil (fun hmem ↦ hkind (List.mem_singleton.mp hmem)) operations
    rw [hoperations, List.nil_append, List.append_nil]

end Rules

namespace Linter

/-- What is reported at the namings that a walk meets is what the namings of the document give. -/
theorem check_eq_filterMap_namings {linter : Linter} {finding? : Naming → Option Diagnostic}
    (h : ∀ site : Site, (linter.rules.flatMap fun active ↦
      active.rule.check active.severity site) = (site.node.naming?.bind finding?).toList)
    (schema : Schema) (document : Document) :
    linter.check schema document = document.namings.filterMap finding? := by
  rw [check_eq_flatMap_check, ← Document.filterMap_naming?_sites schema document,
    List.filterMap_filterMap, List.filterMap_eq_flatMap_toList]
  exact List.flatMap_congr fun site _ ↦ h site

end Linter

end QueryLint
