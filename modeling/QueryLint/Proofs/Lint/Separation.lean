import QueryLint.Proofs.Lint.BuiltIn
import QueryLint.Proofs.Lint.Dispatch
import QueryLint.Proofs.Schema.Failure
import QueryLint.Proofs.Walk.Places

/-!
# Definitions are checked apart

Main statement: `Linter.check_definitions_apart`. What a linter finds in a document is what it finds
in one definition after the other, each as if it stood alone. Only a rule that looks at the whole
document could tell the difference, and the catalogue has none.

The tracker starts every definition as it starts the first (`Definition.sites`), and a handler sees
nothing but the site that it is called for.
-/

namespace QueryLint

open QueryLint.Language

/-- A rule finds nothing at nodes of the kinds that it does not look at. -/
theorem Rule.check_eq_nil {rule : Rule} {site : Site} (h : site.node.kind ∉ rule.kinds)
    (severity : Severity) : rule.check severity site = [] := by
  rw [check_eq_flatMap_reports, registrations, List.filter_eq_nil_iff.mpr, List.map_nil,
    List.flatMap_nil]
  intro entry hentry hkind
  exact h (List.mem_map.mpr ⟨entry, hentry, of_decide_eq_true hkind⟩)

namespace Language

/-- The sites of a definition, with nothing in force around it. -/
def Definition.sites (schema : Schema) (definition : Definition) : List Site :=
  Tracker.start.sites schema definition.events

/-- The sites of a document are its own and those of its definitions, each by itself. -/
theorem Document.sites_eq_cons_flatMap (schema : Schema) (document : Document) :
    document.sites schema =
      ⟨.document document, .outside⟩ :: document.definitions.flatMap (Definition.sites schema) := by
  have hdefinition : Definition.sites schema = Definition.descent schema .outside :=
    funext fun definition ↦
      (Tracker.covers_definition schema Tracker.settled_start definition).sites_eq
  rw [hdefinition]
  exact (Tracker.covers_document schema document).sites_eq

end Language

namespace Linter

/-- No rule looks at the document as a whole. -/
def LooksInside (linter : Linter) : Prop :=
  ∀ active ∈ linter.rules, NodeKind.document ∉ active.rule.kinds

theorem BuiltIn.looksInside {linter : Linter} (h : linter.BuiltIn) : linter.LooksInside := by
  intro active hactive
  have hrule := h active hactive
  generalize active.rule = rule at hrule
  cases hrule with
  | operationNames | requiredFields | typeNames | noDeprecated =>
      simp [Rule.kinds, Rules.operationNames, Rules.requiredFields, Rules.typeNames,
        Rules.noDeprecated]

variable {linter : Linter}

theorem LooksInside.checkSite_document (h : linter.LooksInside) (document : Document)
    (context : Context) : linter.checkSite ⟨.document document, context⟩ = [] := by
  rw [checkSite_eq_flatMap_check, List.flatMap_eq_nil_iff]
  exact fun active hactive ↦ Rule.check_eq_nil (h active hactive) active.severity

/-- What is found in a document is found in its definitions, whatever the range of the document. -/
theorem LooksInside.check_eq_flatMap_sites (h : linter.LooksInside) (schema : Schema)
    (span : Span) (definitions : List Definition) :
    linter.check schema ⟨span, definitions⟩ =
      definitions.flatMap fun definition ↦
        (definition.sites schema).flatMap linter.checkSite := by
  have hsites : linter.check schema ⟨span, definitions⟩ =
      (Document.sites schema ⟨span, definitions⟩).flatMap linter.checkSite := rfl
  rw [hsites, Document.sites_eq_cons_flatMap, List.flatMap_cons, h.checkSite_document,
    List.nil_append, List.flatMap_assoc]

theorem LooksInside.check_eq_flatMap_check (h : linter.LooksInside) (schema : Schema)
    (span alone : Span) (definitions : List Definition) :
    linter.check schema ⟨span, definitions⟩ =
      definitions.flatMap fun definition ↦ linter.check schema ⟨alone, [definition]⟩ := by
  rw [h.check_eq_flatMap_sites]
  refine List.flatMap_congr fun definition _ ↦ ?_
  rw [h.check_eq_flatMap_sites, List.flatMap_singleton]

/-- A linter with rules of the catalogue does not look at documents as a whole. One that does not
finds in a document what it finds in one definition after the other, each alone in a document of any
range, and in a type system definition nothing. So what is found in definitions that follow others
follows what is found in these, where definitions change places what is found in them changes places
with them, and what is found in an operation is the same whatever definitions stand around it. -/
theorem check_definitions_apart (schema : Schema) :
    (∀ linter : Linter, linter.BuiltIn → linter.LooksInside) ∧
      ∀ linter : Linter, linter.LooksInside → ∀ alone : Span,
        let block (definition : Definition) := linter.check schema ⟨alone, [definition]⟩
        (∀ document : Document,
          linter.check schema document = document.definitions.flatMap block) ∧
        (∀ definition : Definition, definition.isExecutable = false → block definition = []) ∧
        (∀ (first second : List Definition) (span spanFirst spanSecond : Span),
          linter.check schema ⟨span, first ++ second⟩ =
            linter.check schema ⟨spanFirst, first⟩ ++ linter.check schema ⟨spanSecond, second⟩) ∧
        (∀ definitions others : List Definition, definitions.Perm others →
          ∃ blocks : List (List Diagnostic), blocks.Perm (definitions.map block) ∧
            ∀ span, linter.check schema ⟨span, others⟩ = blocks.flatten) ∧
        ∀ (operation : Operation) (before after : List Definition) (span : Span),
          linter.check schema ⟨span, before ++ .operation operation :: after⟩ =
            before.flatMap block ++ block (.operation operation) ++ after.flatMap block := by
  refine ⟨fun linter h ↦ h.looksInside, fun linter h alone ↦ ?_⟩
  intro block
  have hblocks (span : Span) (definitions : List Definition) :
      linter.check schema ⟨span, definitions⟩ = definitions.flatMap block :=
    h.check_eq_flatMap_check schema span alone definitions
  refine ⟨fun document ↦ hblocks document.span document.definitions, ?_, ?_, ?_, ?_⟩
  · intro definition hdefinition
    have hevents : definition.events = [] := by
      cases definition with
      | operation | fragment => cases hdefinition
      | schema | directive | type | extendSchema | extendType => rfl
    show linter.check schema ⟨alone, [definition]⟩ = []
    rw [h.check_eq_flatMap_sites, List.flatMap_singleton, Definition.sites, hevents]
    rfl
  · intro first second span spanFirst spanSecond
    rw [hblocks, hblocks, hblocks, List.flatMap_append]
  · intro definitions others hperm
    refine ⟨others.map block, (hperm.map block).symm, fun span ↦ ?_⟩
    rw [hblocks, List.flatMap]
  · intro operation before after span
    rw [hblocks, List.flatMap_append, List.flatMap_cons, List.append_assoc]

/-- An operation, the fragment that it spreads and a type, in this order and the other way round. -/
theorem check_definitions_apart_reversed :
    let linter := (empty.add Rules.noDeprecated .warning).add (Rules.requiredFields ["id"]) .error
    let schema := (Schema.load <| "type Query \x7b id: ID me: Query @deprecated(reason: null) \x7d "
      ++ "union Any = Query").toOption.getD .empty
    let definitions := Definition.listOfText <| "\x7b me \x7b ...F id \x7d \x7d " ++
      "fragment F on Query \x7b me \x7b ...F \x7d \x7d type Query \x7b me: Query @deprecated \x7d"
    let messages (definitions : List Definition) :=
      (linter.check schema ⟨⟨0, 0⟩, definitions⟩).map (·.message)
    let inOperation := ["The field Query.me is deprecated."]
    let inFragment := ["'id' field required on 'fragment F on Query'",
      "The field Query.me is deprecated.", "'id' field required on 'me'"]
    linter.LooksInside ∧ definitions.length = 3 ∧
      messages definitions = inOperation ++ inFragment ∧
        messages definitions.reverse = inFragment ++ inOperation := by
  intro linter schema definitions messages inOperation inFragment
  have hbuiltIn : linter.BuiltIn :=
    (BuiltIn.empty.add .noDeprecated .warning).add (.requiredFields ["id"]) .error
  obtain ⟨hlooks, happart⟩ := check_definitions_apart schema
  obtain ⟨hblocks, -⟩ := happart linter (hlooks linter hbuiltIn) ⟨0, 0⟩
  obtain ⟨hlength, halone⟩ : definitions.length = 3 ∧
      definitions.map (fun definition ↦ messages [definition]) =
        [inOperation, inFragment, []] := by
    decide +kernel
  have hall (definitions : List Definition) :
      messages definitions = (definitions.map fun definition ↦ messages [definition]).flatten := by
    show ((linter.check schema ⟨⟨0, 0⟩, definitions⟩).map (·.message)) = _
    rw [hblocks, List.map_flatMap]
    rfl
  refine ⟨hlooks linter hbuiltIn, hlength, ?_, ?_⟩
  · rw [hall, halone]
    rfl
  · rw [hall, List.map_reverse, halone]
    rfl

end Linter

end QueryLint
