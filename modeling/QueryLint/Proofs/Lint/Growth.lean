import Mathlib.Data.List.Basic
import QueryLint.Language.Grammar.Document
import QueryLint.Proofs.Lint.BuiltIn
import QueryLint.Proofs.Lint.Dispatch
import QueryLint.Proofs.Schema.Wrappers
import QueryLint.Proofs.Tracking.Inclusion
import QueryLint.Schema.Load

/-!
# A schema that knows more finds more

Main statements: `Linter.check_sublist_of_extends`, that extending a schema hides no diagnostic, and
`Linter.check_eq_of_unwrapped_eq`, that list and non-null layers do not show in diagnostics.

Both come from `Linter.check_sublist_of_within` and are about linters with rules of the catalogue,
as every configuration gives them (`Config.builtIn_of_linter`). A rule is monotone if its handlers
report in order all that they report where less is in force; the rules of the catalogue are. Two
schemas that differ in layers only are within each other, so neither finds more than the other.
-/

namespace QueryLint

open QueryLint.Language

/-- Blocks that are in order within other blocks, one by one, are so as a whole. -/
theorem flatMap_sublist_flatMap {α β γ : Type} {f : α → List γ} {g : β → List γ} {left : List α}
    {right : List β} (h : List.Forall₂ (fun a b ↦ (f a).Sublist (g b)) left right) :
    (left.flatMap f).Sublist (right.flatMap g) := by
  induction h with
  | nil => exact .slnil
  | cons hhead _ ih =>
      rw [List.flatMap_cons, List.flatMap_cons]
      exact hhead.append ih

/-! ## Monotone rules -/

/-- Where more is in force the handler reports at least as much, in the same order. -/
def Handler.Monotone (handler : Handler) : Prop :=
  ∀ small large : Site, small.Within large → (handler small).Sublist (handler large)

/-- All handlers of the rule are monotone. -/
def Rule.Monotone (rule : Rule) : Prop :=
  ∀ entry ∈ rule.handlers, Handler.Monotone entry.2

theorem Rule.Monotone.check_sublist {rule : Rule} (h : rule.Monotone) (severity : Severity)
    {small large : Site} (hsite : small.Within large) :
    (rule.check severity small).Sublist (rule.check severity large) := by
  unfold Rule.check Rule.messages
  rw [hsite.node]
  refine .map _ (flatMap_sublist_flatMap (List.forall₂_same.mpr fun entry hentry ↦ ?_))
  by_cases hkind : entry.1 = small.node.kind
  · simpa [hkind] using h entry hentry small large hsite
  · simp [hkind]

/-- Under a schema that another one is within, monotone rules report at least as much. -/
theorem Linter.check_sublist_of_within {linter : Linter}
    (hrules : ∀ active ∈ linter.rules, active.rule.Monotone) {schema other : Schema}
    (h : schema.Within other) (document : Document) :
    (linter.check schema document).Sublist (linter.check other document) := by
  rw [check_eq_flatMap_check, check_eq_flatMap_check]
  refine flatMap_sublist_flatMap ((document.sites_within h).imp fun small large hsite ↦ ?_)
  refine flatMap_sublist_flatMap (List.forall₂_same.mpr fun active hactive ↦ ?_)
  exact (hrules active hactive).check_sublist active.severity hsite

/-! ## The rules of the catalogue -/

namespace Rules

theorem unnamedOperation_monotone : Handler.Monotone unnamedOperation := by
  intro small large hsite
  unfold unnamedOperation
  rw [hsite.node]

theorem uncapitalizedType_monotone : Handler.Monotone uncapitalizedType := by
  intro small large hsite
  unfold uncapitalizedType
  rw [hsite.node]

/-- A type that offers more has more of the required fields to miss. -/
theorem missingFields_sublist {small large : Option ResolvedType}
    (h : Kept ResolvedType.Within small large) (required : List String)
    (selections : Option SelectionSet) :
    (missingFields required small selections).Sublist
      (missingFields required large selections) := by
  refine List.monotone_filter_right required fun name hname ↦ ?_
  rw [Bool.and_eq_true] at hname ⊢
  exact ⟨h.any (fun _ _ htype ↦ htype.offers) hname.1, hname.2⟩

theorem missingInFragment_monotone (required : List String) :
    Handler.Monotone (missingInFragment required) := by
  intro small large hsite
  unfold missingInFragment
  rw [hsite.node]
  cases small.node with
  | fragment fragment => exact (missingFields_sublist hsite.context.type required _).map _
  | _ => exact .slnil

theorem missingInField_monotone (required : List String) :
    Handler.Monotone (missingInField required) := by
  intro small large hsite
  unfold missingInField
  rw [hsite.node]
  cases small.node with
  | field field =>
      cases hfield : small.context.field with
      | none => simp
      | some definition =>
          obtain ⟨other, hother, -⟩ := hsite.context.field definition hfield
          rw [hother]
          exact (missingFields_sublist hsite.context.type required _).map _
  | _ => exact .slnil

theorem deprecatedField_monotone : Handler.Monotone deprecatedField := by
  intro small large hsite
  unfold deprecatedField
  cases hfield : small.context.field with
  | none => simp
  | some definition =>
      cases hparent : small.context.parent with
      | none => simp
      | some owner =>
          obtain ⟨other, hother, hdefinition⟩ := hsite.context.field definition hfield
          obtain ⟨otherOwner, hotherOwner, howner⟩ := hsite.context.parent owner hparent
          rw [hother, hotherOwner]
          simp only [hdefinition.name, hdefinition.deprecation, howner.name]
          exact List.Sublist.refl _

theorem deprecatedEnumValue_monotone : Handler.Monotone deprecatedEnumValue := by
  intro small large hsite
  unfold deprecatedEnumValue
  cases hvalue : small.context.enumValue with
  | none => simp
  | some value =>
      cases hinput : small.context.input with
      | none => simp
      | some type =>
          obtain ⟨other, hother, rfl⟩ := hsite.context.enumValue value hvalue
          obtain ⟨otherType, hotherType, htype⟩ := hsite.context.input type hinput
          rw [hother, hotherType]
          simp only [TypeDef.Within.name htype]
          exact List.Sublist.refl _

end Rules

theorem Rule.BuiltIn.monotone {rule : Rule} (h : rule.BuiltIn) : rule.Monotone := by
  cases h with
  | operationNames => simpa [Monotone, Rules.operationNames] using Rules.unnamedOperation_monotone
  | requiredFields required =>
      simpa [Monotone, Rules.requiredFields] using
        ⟨Rules.missingInFragment_monotone required, Rules.missingInField_monotone required⟩
  | typeNames => simpa [Monotone, Rules.typeNames] using Rules.uncapitalizedType_monotone
  | noDeprecated =>
      simpa [Monotone, Rules.noDeprecated] using
        ⟨Rules.deprecatedField_monotone, Rules.deprecatedEnumValue_monotone⟩

/-! ## What growth does to diagnostics -/

/-- The schema that a text defines; the empty one if it defines none. -/
def Schema.ofText (text : String) : Schema := (load text).toOption.getD .empty

/-- The document in a text; one without definitions if there is none. -/
def Language.Document.ofText (text : String) : Document :=
  (read text).toOption.getD ⟨default, []⟩

/-- Extending a schema hides no diagnostic: those under the schema are in order among those under a
schema that extends it. -/
theorem Linter.check_sublist_of_extends {linter : Linter} (hrules : linter.BuiltIn)
    {larger smaller : Schema} (h : larger.Extends smaller) (document : Document) :
    (linter.check smaller document).Sublist (linter.check larger document) :=
  check_sublist_of_within (fun active hactive ↦ (hrules active hactive).monotone) h.within document

/-- With an extension, the use of a deprecated field is found beside the missing required field. -/
theorem Linter.check_sublist_of_extends_extended_type :
    let linter :=
      (empty.add (Rules.requiredFields ["id"]) .error).add Rules.noDeprecated .warning
    let text := "type Query \x7b me: Query id: ID \x7d "
    let smaller := Schema.ofText text
    let larger := Schema.ofText (text ++ "extend type Query \x7b key: ID @deprecated \x7d")
    let document := Document.ofText "query Q \x7b key me \x7b key \x7d \x7d"
    (linter.check smaller document).map (·.message) = ["'id' field required on 'me'"] ∧
      (linter.check larger document).map (·.message) =
        ["The field Query.key is deprecated. No longer supported",
          "'id' field required on 'me'",
          "The field Query.key is deprecated. No longer supported"] ∧
      (linter.check smaller document).Sublist (linter.check larger document) := by
  intro linter text smaller larger document
  have hrules : linter.BuiltIn :=
    (BuiltIn.empty.add (.requiredFields ["id"]) .error).add .noDeprecated .warning
  have hextends : larger.Extends smaller := by decide +kernel
  have hsublist := check_sublist_of_extends hrules hextends document
  exact ⟨by decide +kernel, by decide +kernel, hsublist⟩

/-- List and non-null layers do not show: schemas that differ in these only give the same
diagnostics. -/
theorem Linter.check_eq_of_unwrapped_eq {linter : Linter} (hrules : linter.BuiltIn)
    {schema other : Schema} (h : schema.unwrapped = other.unwrapped) (document : Document) :
    linter.check schema document = linter.check other document := by
  have hmonotone : ∀ active ∈ linter.rules, active.rule.Monotone :=
    fun active hactive ↦ (hrules active hactive).monotone
  have hthere := check_sublist_of_within hmonotone (Schema.within_of_unwrapped_eq h) document
  -- Being the same without layers is symmetric, so the diagnostics are in order among each other.
  have hback := check_sublist_of_within hmonotone (Schema.within_of_unwrapped_eq h.symm) document
  exact hthere.antisymm hback

/-- A query type with a field that takes values of an enum, all references under the same layers. -/
def Schema.layered (layers : TypeRef → TypeRef) : Schema where
  types := .ofList
    [("Order", ⟨"Order", .enum, none, .empty, .empty,
        .ofList [("OLD", ⟨"OLD", none, some ⟨some "Use NEW."⟩⟩)]⟩),
      ("Query", ⟨"Query", .object, none,
        .ofList
          [("all", ⟨"all", none, layers (.named "Query"),
              .ofList [("by", ⟨"by", none, layers (.named "Order"), none⟩)], none⟩),
            ("id", ⟨"id", none, layers (.named "ID"), .empty, none⟩)],
        .empty, .empty⟩)]
  directives := .empty
  roots := ⟨some "Query", none, none⟩

/-- A missing field and a deprecated value in a list are found with layers and without. -/
theorem Linter.check_eq_of_unwrapped_eq_layered :
    let linter :=
      (empty.add (Rules.requiredFields ["id"]) .error).add Rules.noDeprecated .warning
    let schema := Schema.layered id
    let other := Schema.layered fun type ↦ .nonNull (.list (.nonNull type))
    let document := Document.ofText "query Q \x7b all(by: [OLD]) \x7b x \x7d \x7d"
    schema ≠ other ∧
      (linter.check schema document).map (·.message) =
        ["'id' field required on 'all'", "The enum value Order.OLD is deprecated. Use NEW."] ∧
      linter.check schema document = linter.check other document := by
  intro linter schema other document
  have hrules : linter.BuiltIn :=
    (BuiltIn.empty.add (.requiredFields ["id"]) .error).add .noDeprecated .warning
  have hsame : schema.unwrapped = other.unwrapped := by decide +kernel
  have heq := check_eq_of_unwrapped_eq hrules hsame document
  exact ⟨by decide +kernel, by decide +kernel, heq⟩

end QueryLint
