import QueryLint.Proofs.Lint.Growth
import QueryLint.Proofs.Tracking.Fitting

/-!
# Members that no diagnostic shows

Main statement: `Schema.misfits_indistinguishable`. Whatever members a schema has that do not go
with the kind of their type, no answer and no diagnostic shows them. So extensions that add such
members can be left out.

The rules of the catalogue find the same where fitted types are in force
(`Rule.BuiltIn.overlooksMisfits`), and that is what is in force under the fitted schema.
-/

namespace QueryLint

open QueryLint.Language

/-! ## Rules that overlook misfits -/

/-- The handler reports the same where fitted types are in force. -/
def Handler.OverlooksMisfits (handler : Handler) : Prop :=
  ∀ site : Site, handler site.fitted = handler site

/-- All handlers of the rule report the same where fitted types are in force. -/
def Rule.OverlooksMisfits (rule : Rule) : Prop :=
  ∀ entry ∈ rule.handlers, Handler.OverlooksMisfits entry.2

theorem Rule.OverlooksMisfits.check_fitted {rule : Rule} (h : rule.OverlooksMisfits)
    (severity : Severity) (site : Site) :
    rule.check severity site.fitted = rule.check severity site := by
  have hmessages : rule.messages site.fitted = rule.messages site := by
    refine List.flatMap_congr fun entry hentry ↦ ?_
    show (if entry.1 = site.node.kind then entry.2 site.fitted else []) = _
    rw [h entry hentry site]
  rw [check, hmessages, check]
  rfl

/-- Under the fitted schema such rules find what they find under the schema. -/
theorem Linter.check_fitted {linter : Linter}
    (hrules : ∀ active ∈ linter.rules, active.rule.OverlooksMisfits) (schema : Schema)
    (document : Document) :
    linter.check schema.fitted document = linter.check schema document := by
  rw [check_eq_flatMap_check, check_eq_flatMap_check, document.sites_fitted, List.flatMap_map]
  refine List.flatMap_congr fun site _ ↦ List.flatMap_congr fun active hactive ↦ ?_
  exact (hrules active hactive).check_fitted active.severity site

namespace Rules

theorem unnamedOperation_overlooksMisfits : Handler.OverlooksMisfits unnamedOperation :=
  fun _ ↦ rfl

theorem uncapitalizedType_overlooksMisfits : Handler.OverlooksMisfits uncapitalizedType :=
  fun _ ↦ rfl

/-- A fitted type offers the same fields, so the same ones are missing. -/
theorem missingFields_fitted (required : List String) (type : Option ResolvedType)
    (selections : Option SelectionSet) :
    missingFields required (type.map ResolvedType.fitted) selections =
      missingFields required type selections := by
  unfold missingFields
  cases type <;> simp

theorem missingInFragment_overlooksMisfits (required : List String) :
    Handler.OverlooksMisfits (missingInFragment required) := by
  intro site
  simp only [missingInFragment, Site.fitted, Context.fitted, missingFields_fitted]

theorem missingInField_overlooksMisfits (required : List String) :
    Handler.OverlooksMisfits (missingInField required) := by
  intro site
  simp only [missingInField, Site.fitted, Context.fitted, missingFields_fitted]

theorem deprecatedField_overlooksMisfits : Handler.OverlooksMisfits deprecatedField := by
  intro site
  simp only [deprecatedField, Site.fitted, Context.fitted]
  cases site.context.field with
  | none => rfl
  | some field => cases site.context.parent <;> rfl

theorem deprecatedEnumValue_overlooksMisfits :
    Handler.OverlooksMisfits deprecatedEnumValue := by
  intro site
  simp only [deprecatedEnumValue, Site.fitted, Context.fitted]
  cases site.context.enumValue with
  | none => rfl
  | some value => cases site.context.input <;> simp

end Rules

theorem Rule.BuiltIn.overlooksMisfits {rule : Rule} (h : rule.BuiltIn) :
    rule.OverlooksMisfits := by
  cases h with
  | operationNames =>
      simpa [OverlooksMisfits, Rules.operationNames] using
        Rules.unnamedOperation_overlooksMisfits
  | requiredFields required =>
      simpa [OverlooksMisfits, Rules.requiredFields] using
        ⟨Rules.missingInFragment_overlooksMisfits required,
          Rules.missingInField_overlooksMisfits required⟩
  | typeNames =>
      simpa [OverlooksMisfits, Rules.typeNames] using Rules.uncapitalizedType_overlooksMisfits
  | noDeprecated =>
      simpa [OverlooksMisfits, Rules.noDeprecated] using
        ⟨Rules.deprecatedField_overlooksMisfits, Rules.deprecatedEnumValue_overlooksMisfits⟩

/-! ## Schemas that cannot be told apart -/

namespace Schema

/-- The two schemas answer alike, and all linters with rules of the catalogue find the same under
them in every document. -/
structure Indistinguishable (schema other : Schema) : Prop
    extends schema.AnswersAlike other where
  check : ∀ linter : Linter, linter.BuiltIn → ∀ document,
    linter.check schema document = linter.check other document

theorem indistinguishable_of_fitted_eq {schema other : Schema}
    (h : schema.fitted = other.fitted) : schema.Indistinguishable other where
  toAnswersAlike := answersAlike_of_fitted_eq h
  check linter hlinter document := by
    have hrules : ∀ active ∈ linter.rules, active.rule.OverlooksMisfits :=
      fun active hactive ↦ (hlinter active hactive).overlooksMisfits
    rw [← Linter.check_fitted hrules, h, Linter.check_fitted hrules]

/-- Schemas cannot be told apart if they differ only in members that do not go with the kind of
their type. So what definitions define cannot be told apart from what is defined without the
extensions that add such members, wherever the other definitions stand then. -/
theorem misfits_indistinguishable :
    (∀ schema other : Schema, schema.fitted = other.fitted → schema.Indistinguishable other) ∧
      ∀ definitions schema, ofDefinitions definitions = .ok schema →
        ∀ others, Declaration.ofDefinitions others =
            Declaration.ofDefinitions (schema.withoutMisfits definitions) →
          ∃ other, ofDefinitions others = .ok other ∧ schema.Indistinguishable other := by
  constructor
  · intro schema other h
    exact indistinguishable_of_fitted_eq h
  · intro definitions schema h others hothers
    obtain ⟨other, hother, hfitted⟩ := exists_ofDefinitions_withoutMisfits h
    rw [← ofDefinitions_congr hothers] at hother
    exact ⟨other, hother, indistinguishable_of_fitted_eq hfitted⟩

/-- An enum has a field of the same name as its value from an extension. That the value is
deprecated is found with it and without. -/
theorem misfits_indistinguishable_deprecated :
    let text := "type Query \x7b all(by: Order): Int \x7d enum Order \x7b UP @deprecated \x7d"
    let definitions := Definition.listOfText ("extend type Order \x7b UP: Int \x7d " ++ text)
    let others := Definition.listOfText text
    let linter := Linter.empty.add Rules.noDeprecated .warning
    let document := Document.ofText "query Q \x7b all(by: UP) \x7d"
    ∃ schema other, ofDefinitions definitions = .ok schema ∧ ofDefinitions others = .ok other ∧
      schema ≠ other ∧ schema.fitted = other.fitted ∧ schema.Indistinguishable other ∧
        (linter.check other document).map (·.message) =
          ["The enum value Order.UP is deprecated. No longer supported"] ∧
            linter.check schema document = linter.check other document := by
  intro text definitions others linter document
  have hfound : ((ofDefinitions definitions).toOption.any fun schema ↦
      (ofDefinitions others).toOption.any fun other ↦
        schema ≠ other ∧ schema.fitted = other.fitted ∧
          Declaration.ofDefinitions others =
            Declaration.ofDefinitions (schema.withoutMisfits definitions) ∧
            (linter.check other document).map (·.message) =
              ["The enum value Order.UP is deprecated. No longer supported"]) = true := by
    decide +kernel
  -- No more than this is read off the texts.
  clear_value definitions others document
  obtain ⟨schema, hschema, hfound⟩ := (Option.any_eq_true _ _).mp hfound
  obtain ⟨other, hother, hgood⟩ := (Option.any_eq_true _ _).mp hfound
  rw [toOption_eq_some_iff] at hschema hother
  obtain ⟨hne, hfitted, hdeclared, hmessages⟩ := of_decide_eq_true hgood
  obtain ⟨result, hresult, halike⟩ :=
    misfits_indistinguishable.2 definitions schema hschema others hdeclared
  rw [hother] at hresult
  cases hresult
  have hsame := misfits_indistinguishable.1 schema other hfitted
  have hlinter : linter.BuiltIn := Linter.BuiltIn.empty.add .noDeprecated .warning
  exact ⟨schema, other, hschema, hother, hne, hfitted, halike, hmessages,
    hsame.check linter hlinter document⟩

end Schema

end QueryLint
