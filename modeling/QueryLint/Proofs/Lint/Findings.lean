import Mathlib.Logic.Relation
import QueryLint.Proofs.Lint.Deprecation
import QueryLint.Proofs.Tracking.Scopes

/-!
# Findings from part to part

`Scope.findings` lists the messages about deprecations in a row of constructs. Main statements:
`Scope.Alike.findings_cons` and `Linter.map_message_check_of_steps`. Constructs that say the same
have the same findings if their parts have, and a linter reports the same about deprecations after
any number of steps that keep the findings in a document.
-/

namespace QueryLint

open QueryLint.Language

theorem Language.Construct.isWalked_head (here : Construct) :
    here.head.isWalked = here.isWalked := by
  cases here with
  | definition it => cases it <;> rfl
  | value it => cases it <;> rfl
  | selection it => cases it <;> rfl
  | _ => rfl

namespace Scope

variable (schema : Schema) (scope : Scope)

/-- The message about a deprecation in what a construct says itself. -/
def finding? (here : Construct) : Option String :=
  (here.site? schema scope).bind Site.deprecation?

/-- The messages about deprecations in a row of constructs, in the order of the walk. -/
def findings (row : List Construct) : List String :=
  row.flatMap fun here ↦ (here.descent schema scope).filterMap Site.deprecation?

theorem findings_append (row others : List Construct) :
    scope.findings schema (row ++ others) =
      scope.findings schema row ++ scope.findings schema others :=
  List.flatMap_append

/-- A construct comes before its parts, and these before what follows it. -/
theorem findings_cons (here : Construct) (rest : List Construct) :
    scope.findings schema (here :: rest) = (scope.finding? schema here).toList ++
      ((scope.into schema here).findings schema here.walkedParts ++
        scope.findings schema rest) := by
  have hself : (here.site? schema scope).toList.filterMap Site.deprecation? =
      (scope.finding? schema here).toList := by
    unfold finding?
    cases here.site? schema scope with
    | none => rfl
    | some site => cases h : site.deprecation? <;> simp [h]
  rw [findings, List.flatMap_cons, Construct.descent_eq, List.filterMap_append, hself,
    List.filterMap_flatMap, List.append_assoc]
  rfl

/-- The message about a construct depends on what it says itself only. -/
theorem finding?_head (here : Construct) :
    scope.finding? schema here.head = scope.finding? schema here := by
  unfold finding? Construct.site?
  rw [scope.into_head]
  cases here with
  | definition it => cases it <;> rfl
  | value it => cases it <;> rfl
  | selection it => cases it <;> rfl
  | _ => rfl

namespace Alike

variable {schema : Schema} {scope other : Scope}

/-- Where no look-up tells two scopes apart, there are the same messages. -/
theorem finding?_eq (h : scope.Alike other) (here : Construct) :
    scope.finding? schema here = other.finding? schema here := by
  cases here with
  | definition it => cases it <;> rfl
  | value it =>
      cases it with
      | enum name =>
          exact h.bind_input fun owner ↦ do
            let value ← owner.enumValue? name.text
            let deprecation ← value.deprecation
            return "The enum value " ++ owner.name ++ "." ++ value.name ++ " is deprecated." ++
              deprecation.remark
      | _ => rfl
  | selection it =>
      cases it with
      | field it =>
          have hparent := (h.into schema (.selection (.field it))).parent
          simp only [finding?, Construct.site?, Construct.event?, Event.begins?, Option.bind_some,
            Option.map_some, Site.deprecation?, hparent]
      | _ => rfl
  | _ => rfl

/-- Constructs that say the same have the same findings if their parts have. -/
theorem findings_cons (h : scope.Alike other) {here there : Construct}
    {rest others : List Construct} (hhead : here.head = there.head)
    (hparts : (scope.into schema here).findings schema here.parts =
      (other.into schema there).findings schema there.parts)
    (hrest : scope.findings schema rest = other.findings schema others) :
    scope.findings schema (here :: rest) = other.findings schema (there :: others) := by
  have hself : scope.finding? schema here = other.finding? schema there := by
    rw [← scope.finding?_head, hhead, scope.finding?_head, h.finding?_eq]
  have hwalked : here.isWalked = there.isWalked := by
    rw [← here.isWalked_head, hhead, there.isWalked_head]
  rw [Scope.findings_cons, Scope.findings_cons, hself, hrest, Construct.walkedParts,
    Construct.walkedParts, hwalked]
  cases there.isWalked with
  | true => simp only [↓reduceIte, hparts]
  | false => rfl

end Alike

end Scope

/-- The messages about deprecations in a document, in the order of the walk. -/
def Language.Document.findings (schema : Schema) (document : Document) : List String :=
  Scope.outside.findings schema (document.definitions.map .definition)

namespace Linter

variable {schema : Schema} (severity : Severity)

/-- What a linter reports about deprecations are the findings in the document. -/
theorem map_message_check_noDeprecated (schema : Schema) (document : Document) :
    ((empty.add Rules.noDeprecated severity).check schema document).map (·.message) =
      document.findings schema := by
  have hsites : document.sites schema = document.descent schema :=
    (Tracker.covers_document schema document).sites_eq
  have hmessage (site : Site) :
      (site.deprecationAt? severity).map (·.message) = site.deprecation? := by
    unfold Site.deprecationAt?
    cases site.deprecation? <;> rfl
  rw [check_add_empty_of_linked fun site h ↦ Rules.check_noDeprecated_eq_toList h severity,
    ← List.filterMap_eq_flatMap_toList, List.map_filterMap, hsites, Document.descent,
    Document.findings, Scope.findings, List.flatMap_map, ← List.filterMap_flatMap]
  simp only [hmessage]
  rfl

/-- Steps that keep the findings in a document keep what is reported about deprecations, however
many there are. -/
theorem map_message_check_of_steps {step : Document → Document → Prop}
    (hstep : ∀ {document other}, step document other →
      document.findings schema = other.findings schema)
    {document other : Document} (h : Relation.ReflTransGen step document other) :
    ((empty.add Rules.noDeprecated severity).check schema other).map (·.message) =
      ((empty.add Rules.noDeprecated severity).check schema document).map (·.message) := by
  rw [map_message_check_noDeprecated, map_message_check_noDeprecated]
  induction h with
  | refl => rfl
  | tail _ hlast ih => exact (hstep hlast).symm.trans ih

end Linter

end QueryLint
