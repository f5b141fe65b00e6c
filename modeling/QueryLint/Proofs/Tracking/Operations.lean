import QueryLint.Proofs.Grammar.Shorthand
import QueryLint.Proofs.Lint.Growth
import QueryLint.Proofs.Outcome
import QueryLint.Proofs.Schema.Roots
import QueryLint.Proofs.Tracking.Agreement

/-!
# Where operations start

Main statement: `Document.type_at_operations`. At an operation the tracker has the type in force
whose name the definitions of the schema give to the root type of its kind, if that is an object, and
else none. A selection set that stands alone counts as a query.
-/

namespace QueryLint

open QueryLint.Language

namespace Schema

variable {schema : Schema}

/-- An operation starts at the type of the name of the root type, if that is an object. -/
theorem operationType?_eq_some_iff {kind : OperationKind} {found : ResolvedType} :
    schema.operationType? kind = some found ↔
      ∃ name type, schema.roots.get kind = some name ∧ schema.type? name = some type ∧
        type.kind = .object ∧ found = .named type := by
  simp only [operationType?, root?, Option.map_eq_some_iff, Option.filter_eq_some_iff,
    Option.bind_eq_some_iff, beq_iff_eq]
  constructor
  · rintro ⟨type, ⟨⟨name, hname, htype⟩, hkind⟩, rfl⟩
    exact ⟨name, type, hname, htype, hkind, rfl⟩
  · rintro ⟨name, type, hname, htype, hkind, rfl⟩
    exact ⟨type, ⟨⟨name, hname, htype⟩, hkind⟩, rfl⟩

end Schema

/-- The operation that a definition is. -/
def Language.Definition.operation? : Definition → Option Operation
  | .operation it => some it
  | _ => none

theorem Language.Definition.eq_operation_of_operation? {it : Definition} {operation : Operation}
    (h : it.operation? = some operation) : it = .operation operation := by
  cases it with
  | operation other =>
      cases h
      rfl
  | fragment | schema | directive | type | extendSchema | extendType => cases h

namespace Language.Document

/-- A walk meets every operation of a document. -/
theorem exists_site_of_operation (schema : Schema) {document : Document} {operation : Operation}
    (h : .operation operation ∈ document.definitions) :
    ∃ site ∈ document.sites schema, site.node = .operation operation := by
  have hevent : Event.enter (.operation operation) ∈ document.events := by
    refine List.mem_cons_of_mem _ (List.mem_append_left _ ?_)
    exact List.mem_flatMap.mpr ⟨.operation operation, h, List.mem_cons_self⟩
  exact exists_site_of_begins? schema hevent rfl

/-- Entering an operation brings the type in force at which operations of its kind start. -/
theorem type_eq_operationType? {schema : Schema} {document : Document} {site : Site}
    (hsite : site ∈ document.sites schema) {operation : Operation}
    (hnode : site.node = .operation operation) :
    site.context.type = schema.operationType? operation.kind := by
  obtain ⟨before, hcontext⟩ := Tracker.exists_enter_of_mem_sites hsite
  rw [hcontext, hnode]
  rfl

/-- Let some definitions define a schema. A walk of a document meets each of its operations, and has
a type in force there exactly if the name that the definitions give to the root type of its kind is
that of an object, which is then the type. In a document that has been read, an operation that is
written as its selection set alone is a query. -/
theorem type_at_operations {definitions : List Definition} {schema : Schema}
    (h : Schema.ofDefinitions definitions = .ok schema) (document : Document) :
    (∀ operation, .operation operation ∈ document.definitions →
      ∃ site ∈ document.sites schema, site.node = .operation operation) ∧
      (∀ site ∈ document.sites schema, ∀ operation, site.node = .operation operation →
        ∀ found, site.context.type = some found ↔
          ∃ name type, Schema.rootName? definitions operation.kind = some name ∧
            schema.type? name = some type ∧ type.kind = .object ∧ found = .named type) ∧
      ∀ text, read text = .ok document →
        ∀ operation, .operation operation ∈ document.definitions →
          operation.span = operation.selections.span → operation.kind = .query := by
  refine ⟨fun operation ↦ exists_site_of_operation schema, ?_, ?_⟩
  · intro site hsite operation hnode found
    rw [type_eq_operationType? hsite hnode, Schema.operationType?_eq_some_iff,
      Schema.get_roots_of_ofDefinitions h]
  · intro text hread operation hmem hspan
    exact kind_of_span_eq hread hmem hspan

/-- The last entry for queries names a union and there is none for subscriptions, so only the
mutation has a type, although an earlier entry names an object and there is a customary name. -/
theorem type_at_operations_entered_twice :
    let definitions := Definition.listOfText <|
      "schema \x7b query: A mutation: A \x7d type A \x7b a: Int \x7d union U = A " ++
        "type Subscription \x7b a: Int \x7d schema \x7b query: U mutation: B \x7d " ++
          "type B \x7b b: Int \x7d"
    ∃ document schema,
      read "\x7b a \x7d mutation M \x7b b \x7d subscription S \x7b a \x7d" = .ok document ∧
        Schema.ofDefinitions definitions = .ok schema ∧
          (∀ site ∈ document.sites schema, ∀ operation, site.node = .operation operation →
            site.context.type.map ResolvedType.render =
              if operation.kind = .mutation then some "B" else none) ∧
            ∃ operation, .operation operation ∈ document.definitions ∧
              operation.span = operation.selections.span ∧ operation.kind = .query := by
  intro definitions
  obtain ⟨hquery, hmutation, hsubscription⟩ :
      Schema.rootName? definitions .query = some "U" ∧
        Schema.rootName? definitions .mutation = some "B" ∧
          Schema.rootName? definitions .subscription = none := by
    decide +kernel
  have hloads : (Schema.ofDefinitions definitions).toOption.any (fun schema ↦
      (schema.type? "U").any (·.kind = .union) ∧
        (schema.type? "B").any (fun type ↦ type.name = "B" ∧ type.kind = .object)) = true := by
    decide +kernel
  obtain ⟨schema, hschema, hgood⟩ := (Option.any_eq_true _ _).mp hloads
  obtain ⟨hunion, hobject⟩ := of_decide_eq_true hgood
  obtain ⟨union, hunion, hunionKind⟩ := (Option.any_eq_true _ _).mp hunion
  obtain ⟨object, hobject, hnamed⟩ := (Option.any_eq_true _ _).mp hobject
  obtain ⟨hname, hobjectKind⟩ := of_decide_eq_true hnamed
  have hloaded := toOption_eq_some_iff.mp hschema
  have hreads : (read "\x7b a \x7d mutation M \x7b b \x7d subscription S \x7b a \x7d").toOption.any
      (fun document ↦ (document.definitions.filterMap Definition.operation?).any
        fun operation ↦ operation.span = operation.selections.span) = true := by
    decide +kernel
  obtain ⟨document, hdocument, halone⟩ := (Option.any_eq_true _ _).mp hreads
  have hread := toOption_eq_some_iff.mp hdocument
  obtain ⟨-, htypes, hqueries⟩ := type_at_operations hloaded document
  refine ⟨document, schema, hread, hloaded, ?_, ?_⟩
  · intro site hsite operation hnode
    have htype := htypes site hsite operation hnode
    have hnone (hother : ∀ name type, Schema.rootName? definitions operation.kind = some name →
        schema.type? name = some type → type.kind ≠ .object) : site.context.type = none := by
      rw [Option.eq_none_iff_forall_ne_some]
      intro found hfound
      obtain ⟨name, type, hroot, hnamed, hobject, -⟩ := (htype found).mp hfound
      exact hother name type hroot hnamed hobject
    cases hkind : operation.kind with
    | query =>
        have hstops : site.context.type = none := by
          refine hnone fun name type hroot hnamed hobject ↦ ?_
          rw [hkind, hquery] at hroot
          cases hroot
          rw [hunion] at hnamed
          cases hnamed
          rw [hobject] at hunionKind
          cases hunionKind
        rw [hstops]
        rfl
    | mutation =>
        have hsome : site.context.type = some (.named object) :=
          (htype (.named object)).mpr ⟨"B", object, hkind ▸ hmutation, hobject, hobjectKind, rfl⟩
        rw [hsome]
        exact congrArg some hname
    | subscription =>
        have hstops : site.context.type = none := by
          refine hnone fun name type hroot _ _ ↦ ?_
          rw [hkind, hsubscription] at hroot
          cases hroot
        rw [hstops]
        rfl
  · obtain ⟨operation, hoperation, hspan⟩ := List.any_eq_true.mp halone
    obtain ⟨definition, hmem, hdefinition⟩ := List.mem_filterMap.mp hoperation
    rw [Definition.eq_operation_of_operation? hdefinition] at hmem
    have hsame := of_decide_eq_true hspan
    exact ⟨operation, hmem, hsame, hqueries _ hread operation hmem hsame⟩

end Language.Document

end QueryLint
