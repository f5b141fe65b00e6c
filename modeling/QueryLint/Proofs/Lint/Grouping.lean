import QueryLint.Proofs.Lint.Findings
import QueryLint.Proofs.Lint.Growth
import QueryLint.Proofs.Schema.Contents
import QueryLint.Proofs.Tracking.Provenance
import QueryLint.Proofs.Walk.Rows

/-!
# Selections in inline fragments of their own

Selections can be put into an inline fragment without a condition, or with a condition that names
the type on which they stand. Main statement: `Linter.check_grouped`. Doing so, to any selections in
a row and any number of times, changes nothing about deprecations.

`Construct.Grouped` relates rows that differ in such fragments only. Inside the fragment the scope
is another one, since the type in force has lost its layers, but no look-up tells it apart from the
one around the fragment (`Scope.Alike.into_group`). This takes two things: that the type in force is
one of the schema, under its name (`Scope.Known`), and that the parent is the one that a selection
set brings in (`Scope.Selects`).
-/

namespace QueryLint

open QueryLint.Language

/-! ## The scopes of selections -/

theorem Schema.hasOutput_of_yields {schema : Schema} {type : TypeRef} {found : ResolvedType}
    (h : schema.yields type = some found) : schema.HasOutput found :=
  hasOutput_of_outputType? (by rwa [outputType?_eq_yields])

theorem Context.type_inOperation (schema : Schema) (here : Context) (kind : OperationKind) :
    (here.inOperation schema kind).type = schema.operationType? kind := by
  simp only [inOperation, Schema.operationType?]
  cases schema.root? kind with
  | none => rfl
  | some type => cases h : type.kind <;> simp [Option.filter, h]

namespace Scope

/-- The type in force has this name, below its layers. -/
def IsOn (scope : Scope) (name : String) : Prop :=
  scope.context.type.map (·.namedType.name) = some name

/-- The type in force, if there is one, is a type of the schema. -/
def Known (schema : Schema) (scope : Scope) : Prop :=
  ∀ type, scope.context.type = some type → schema.HasOutput type

/-- Where there are selections, the parent is what a selection set makes of the type in force. -/
def Selects (scope : Scope) (row : List Construct) : Prop :=
  ∀ item, .selection item ∈ row → scope.context.inSelections = scope.context

variable {schema : Schema} {scope : Scope}

/-- A selection set whose parent has a name is on the type of that name. -/
theorem isOn_of_parent {set : SelectionSet} {name : String}
    (h : (scope.into schema (.selectionSet set)).context.parent.map (·.name) = some name) :
    (scope.into schema (.selectionSet set)).IsOn name := by
  obtain ⟨owner, howner, rfl⟩ := Option.map_eq_some_iff.mp h
  obtain ⟨howner, -⟩ := Option.filter_eq_some_iff.mp howner
  obtain ⟨type, htype, rfl⟩ := Option.map_eq_some_iff.mp howner
  exact Option.map_eq_some_iff.mpr ⟨type, htype, rfl⟩

theorem Selects.tail {here : Construct} {rest : List Construct} (h : scope.Selects (here :: rest)) :
    scope.Selects rest :=
  fun item hitem ↦ h item (List.mem_cons_of_mem here hitem)

theorem known_outside (schema : Schema) : outside.Known schema := fun _ h ↦ by cases h

/-- A known type leads to known types only. -/
theorem Known.into (h : scope.Known schema) (here : Construct) :
    (scope.into schema here).Known schema := by
  cases here with
  | definition it =>
      cases it with
      | operation it =>
          intro type htype
          exact Schema.hasOutput_of_operationType? (Context.type_inOperation .. ▸ htype)
      | fragment it => exact fun _ ↦ Schema.hasOutput_of_yields
      | _ => exact h
  | value it => cases it <;> exact h
  | selection it =>
      cases it with
      | field it =>
          intro type htype
          obtain ⟨definition, -, hyields⟩ := Option.bind_eq_some_iff.mp htype
          exact Schema.hasOutput_of_yields hyields
      | inline it =>
          obtain ⟨span, condition, directives, selections⟩ := it
          cases condition with
          | none =>
              intro type htype
              obtain ⟨around, haround, rfl⟩ := Option.map_eq_some_iff.mp htype
              exact h around haround
          | some name => exact fun _ ↦ Schema.hasOutput_of_yields
      | spread span name directives => exact h
  | _ => exact h

/-- Among the parts of a construct, selections stand under what their selection set brings in. -/
theorem selects_parts (schema : Schema) (scope : Scope) (here : Construct) :
    (scope.into schema here).Selects here.parts := by
  intro item hitem
  obtain ⟨set, rfl⟩ := Construct.eq_selectionSet_of_mem_parts hitem
  rfl

/-- On a type of this name, a condition with the name brings in that type. -/
theorem Known.yields_eq (h : scope.Known schema) (hkeyed : schema.WellKeyed) {name : String}
    (hname : scope.IsOn name) :
    (schema.yields (.named name)).map ResolvedType.namedType =
      scope.context.type.map ResolvedType.namedType := by
  obtain ⟨type, htype, rfl⟩ := Option.map_eq_some_iff.mp hname
  obtain ⟨⟨key, hkey⟩, hkind⟩ := h type htype
  obtain rfl : type.namedType.name = key := (hkeyed.types.of_get? hkey).1
  rw [htype, Schema.yields, Schema.resolve?, hkey]
  simp [ResolvedType.namedType, hkind]

/-- In a selection set, an inline fragment without a condition, or with a condition that names the
type in force, leads to a scope that no look-up tells apart. -/
theorem Alike.into_group {other : Scope} (h : scope.Alike other) (hkeyed : schema.WellKeyed)
    (hknown : scope.Known schema) (hselects : scope.context.inSelections = scope.context)
    {span : Span} {condition : Option Name} {set : SelectionSet}
    (hcondition : ∀ name ∈ condition, scope.IsOn name.text) :
    scope.Alike ((other.into schema (.selection (.inline ⟨span, condition, [], set⟩))).into schema
      (.selectionSet set)) := by
  have htype : scope.context.type.map ResolvedType.namedType =
      (other.context.inInline schema condition).type.map ResolvedType.namedType := by
    cases condition with
    | none =>
        rw [Context.map_namedType_inInline_none]
        exact h.type
    | some name => exact (hknown.yields_eq hkeyed (hcondition name rfl)).symm
  have hparent : scope.context.parent =
      ((other.context.inInline schema condition).type.map ResolvedType.namedType).filter fun type ↦
        type.kind ∈ [TypeKind.object, .interface, .union] := by
    rw [← htype]
    exact congrArg Context.parent hselects.symm
  cases condition <;> exact { h with type := htype, parent := hparent }

end Scope

/-! ## Groups -/

namespace Language

/-- In this scope the second row says what the first one says, with some runs of selections in
inline fragments of their own. Ranges may differ. -/
inductive Construct.Grouped (schema : Schema) : Scope → List Construct → List Construct → Prop
  | nil {scope : Scope} : Grouped schema scope [] []
  | cons {scope : Scope} {here there : Construct} {rest others : List Construct}
      (hhead : here.head = there.head)
      (hparts : Grouped schema (scope.into schema here) here.parts there.parts)
      (hrest : Grouped schema scope rest others) :
      Grouped schema scope (here :: rest) (there :: others)
  /-- The run comes into an inline fragment without a condition, or with a condition that names the
  type in force. It may have fragments in it already. -/
  | group {scope : Scope} (span setSpan : Span) {condition : Option Name}
      {run inside : List Selection} {rest others : List Construct}
      (hcondition : ∀ name ∈ condition, scope.IsOn name.text)
      (hrun : Grouped schema scope (run.map .selection) (inside.map .selection))
      (hrest : Grouped schema scope rest others) :
      Grouped schema scope (run.map .selection ++ rest)
        (.selection (.inline ⟨span, condition, [], ⟨setSpan, inside⟩⟩) :: others)

/-- The second document is the first one with some runs of selections in inline fragments of their
own. -/
def Document.Grouped (schema : Schema) (document other : Document) : Prop :=
  Construct.Grouped schema .outside (document.definitions.map .definition)
    (other.definitions.map .definition)

end Language

/-- Every row says what it says, without further fragments. -/
theorem Language.Construct.Grouped.refl (schema : Schema) (scope : Scope) (row : List Construct) :
    Grouped schema scope row row := by
  induction row using row_induction generalizing scope with
  | nil => exact .nil
  | cons here rest hparts hrest => exact .cons rfl (hparts _) (hrest scope)

/-- The findings in an inline fragment without directives are those in its selections. -/
theorem Scope.findings_inline (schema : Schema) (scope : Scope) (span : Span)
    (condition : Option Name) (set : SelectionSet) (others : List Construct) :
    scope.findings schema (.selection (.inline ⟨span, condition, [], set⟩) :: others) =
      ((scope.into schema (.selection (.inline ⟨span, condition, [], set⟩))).into schema
        (.selectionSet set)).findings schema (set.items.map .selection) ++
        scope.findings schema others := by
  have hcondition (inside : Scope) :
      inside.findings schema (condition.toList.map .namedType) = [] := by
    cases condition <;> rfl
  have hset (inside : Scope) : inside.findings schema [.selectionSet set] =
      (inside.into schema (.selectionSet set)).findings schema (set.items.map .selection) :=
    (inside.findings_cons schema (.selectionSet set) []).trans (List.append_nil _)
  have hparts (inside : Scope) : inside.findings schema
      (condition.toList.map .namedType ++ [] ++ [.selectionSet set]) =
      (inside.into schema (.selectionSet set)).findings schema (set.items.map .selection) := by
    rw [findings_append, findings_append, hcondition, hset]
    rfl
  rw [findings_cons, ← hparts]
  rfl

/-- Rows with such fragments have the same findings, under scopes that no look-up tells apart. -/
theorem Language.Construct.Grouped.findings_eq {schema : Schema} (hkeyed : schema.WellKeyed)
    {scope : Scope} {row others : List Construct} (h : Grouped schema scope row others)
    (hknown : scope.Known schema) (hselects : scope.Selects others) {other : Scope}
    (halike : scope.Alike other) :
    scope.findings schema row = other.findings schema others := by
  induction h generalizing other with
  | nil => rfl
  | @cons scope here there rest others hhead _ _ ihparts ihrest =>
      have hselectsParts : (scope.into schema here).Selects there.parts := by
        rw [← scope.into_head, hhead, scope.into_head]
        exact scope.selects_parts schema there
      exact halike.findings_cons hhead
        (ihparts (hknown.into here) hselectsParts (halike.into_of_head_eq schema hhead))
        (ihrest hknown hselects.tail halike)
  | @group scope span setSpan condition run inside rest others hcondition _ _ ihrun ihrest =>
      have hsame := hselects _ List.mem_cons_self
      rw [Scope.findings_append, Scope.findings_inline,
        ihrun hknown (fun _ _ ↦ hsame) (halike.into_group hkeyed hknown hsame hcondition),
        ihrest hknown hselects.tail halike]

namespace Linter

/-- Under a schema that definitions define, where runs of selections are put into inline fragments
without a condition, or with a condition that names the type on which they stand, any number of
times, the same is reported about deprecations, in the same order. -/
theorem check_grouped {definitions : List Definition} {schema : Schema}
    (h : Schema.ofDefinitions definitions = .ok schema) {document other : Document}
    (hgrouped : Relation.ReflTransGen (Document.Grouped schema) document other)
    (severity : Severity) :
    ((empty.add Rules.noDeprecated severity).check schema other).map (·.message) =
      ((empty.add Rules.noDeprecated severity).check schema document).map (·.message) := by
  have hkeyed := Schema.wellKeyed_of_ofDefinitions h
  have hselects (document : Document) :
      Scope.outside.Selects (document.definitions.map .definition) := by
    intro item hitem
    obtain ⟨_, -, hdefinition⟩ := List.mem_map.mp hitem
    cases hdefinition
  refine map_message_check_of_steps severity (fun {document other} hstep ↦ ?_) hgrouped
  exact hstep.findings_eq hkeyed (Scope.known_outside schema) (hselects other) (.refl .outside)

/-- A deprecated field is put under a condition that names its type, which has layers where it comes
from, and then with the field after it into a fragment without a condition. -/
theorem check_grouped_twice :
    let definitions := (Document.ofText <| "type Query \x7b users: [User!]! \x7d " ++
      "type User \x7b old: User @deprecated id: ID \x7d").definitions
    let schema := (Schema.ofDefinitions definitions).toOption.getD .empty
    let linter := empty.add Rules.noDeprecated .warning
    let name (text : String) : Name := ⟨text, default⟩
    let field (text : String) (set : Option SelectionSet) : Selection :=
      .field ⟨default, none, name text, [], [], set⟩
    let group (condition : Option Name) (items : List Selection) : Selection :=
      .inline ⟨default, condition, [], ⟨default, items⟩⟩
    let users (items : List Selection) : Selection := field "users" (some ⟨default, items⟩)
    let operation (items : List Selection) : Definition :=
      .operation ⟨default, .query, none, [], [], ⟨default, [users items]⟩⟩
    let document (items : List Selection) : Document := ⟨default, [operation items]⟩
    let plain := [field "old" none, field "id" none]
    let once := [group (some (name "User")) [field "old" none], field "id" none]
    let twice := [group none once]
    Schema.ofDefinitions definitions = .ok schema ∧
      Relation.ReflTransGen (Document.Grouped schema) (document plain) (document twice) ∧
      (linter.check schema (document plain)).map (·.message) =
        ["The field User.old is deprecated. No longer supported"] ∧
      (linter.check schema (document twice)).map (·.message) =
        ["The field User.old is deprecated. No longer supported"] := by
  intro definitions schema linter name field group users operation document plain once twice
  obtain ⟨found, hfound⟩ : ∃ found, (Schema.ofDefinitions definitions).toOption = some found :=
    Option.isSome_iff_exists.mp (by decide +kernel)
  have hschema : Schema.ofDefinitions definitions = .ok schema := by
    show _ = Except.ok ((Schema.ofDefinitions definitions).toOption.getD .empty)
    rw [hfound]
    exact toOption_eq_some_iff.mp hfound
  -- The scope of the selections on users.
  obtain ⟨inside, hinside⟩ : ∃ inside : Scope, inside =
      [.definition (operation plain), .selectionSet ⟨default, [users plain]⟩,
        .selection (users plain), .selectionSet ⟨default, plain⟩].foldl
          (Scope.into schema) .outside := ⟨_, rfl⟩
  have hon : inside.IsOn "User" := by
    rw [hinside]
    exact @Scope.isOn_of_parent schema _ ⟨default, plain⟩ _ (by decide +kernel)
  have hdocument {items others : List Selection}
      (h : Construct.Grouped schema inside (items.map .selection) (others.map .selection)) :
      (document items).Grouped schema (document others) := by
    rw [hinside] at h
    exact .cons rfl (.cons rfl (.cons rfl (.cons rfl h .nil) .nil) .nil) .nil
  have hfirst : Construct.Grouped schema inside
      ([field "old" none].map .selection ++ [.selection (field "id" none)])
      (once.map .selection) :=
    .group default default (fun _ h ↦ by cases h; exact hon) (.refl ..) (.refl ..)
  have hsecond : Construct.Grouped schema inside (once.map .selection ++ [])
      (twice.map .selection) :=
    .group default default (fun _ h ↦ by cases h) (.refl ..) .nil
  have hsteps : Relation.ReflTransGen (Document.Grouped schema) (document plain)
      (document twice) :=
    (Relation.ReflTransGen.single (@hdocument plain once hfirst)).tail
      (@hdocument once twice hsecond)
  have hplain : (linter.check schema (document plain)).map (·.message) =
      ["The field User.old is deprecated. No longer supported"] := by decide +kernel
  exact ⟨hschema, hsteps, hplain, (check_grouped hschema hsteps .warning).trans hplain⟩

end Linter

end QueryLint
