import Mathlib.Data.List.Basic
import QueryLint.Language.Grammar.Document
import QueryLint.Lint.Linter
import QueryLint.Lint.Rules.Deprecated
import QueryLint.Proofs.Tracking.Agreement
import QueryLint.Schema.Load

/-!
# What the arguments of a directive are given for

Main statement: `Document.input_of_directive_argument`. Wherever a directive stands, its arguments
come next in the walk. If the schema has the directive, they are given for what it declares for
them, whatever field is around. If it does not, the directive does not count, and they are given for
what the field in force has under their names.

`ArgumentsFollow` is proved over the tree: it holds of sites without directives, of those of one
directive, and of two such lists in a row.
-/

namespace QueryLint

open QueryLint.Language

/-- What the schema declares for an argument of a directive; nothing if it does not have the
directive or the directive does not have the argument. -/
def Schema.directiveInput (schema : Schema) (directive argument : String) :
    Option ResolvedType :=
  ((schema.directive? directive).bind (·.arguments.get? argument)).bind (schema.takes ·.type)

/-- What the field in force has for an argument of this name. -/
def Context.fieldInput (schema : Schema) (here : Context) (argument : String) :
    Option ResolvedType :=
  (here.field.bind (·.arguments.get? argument)).bind (schema.takes ·.type)

/-- What an argument of a directive is given for: what the schema declares if it has the directive,
and what the field in force has if it does not. -/
def Context.inputWithin (schema : Schema) (here : Context) (directive argument : String) :
    Option ResolvedType :=
  if (schema.directive? directive).isSome then schema.directiveInput directive argument
  else here.fieldInput schema argument

/-- The sites of the arguments of a directive that stands here, and of their values. -/
def Language.Directive.argumentSites (schema : Schema) (here : Context) (directive : Directive) :
    List Site :=
  directive.arguments.flatMap
    (Argument.descent schema here (here.offeredBy schema directive.name.text))

/-- The argument at a site and what it is given for. -/
def Site.argument? (site : Site) : Option (Argument × Option ResolvedType) :=
  match site.node with
  | .argument argument => some (argument, site.context.input)
  | _ => none

/-- Every directive among the sites is followed by the sites of its arguments. -/
def ArgumentsFollow (schema : Schema) (sites : List Site) : Prop :=
  ∀ before directive here after, sites = before ++ ⟨.directive directive, here⟩ :: after →
    directive.argumentSites schema here <+: after

/-! ## Sites in values and arguments -/

/-- The kinds of node that values are made of. -/
def NodeKind.inValue : NodeKind → Bool
  | list | objectField | enumValue => true
  | _ => false

theorem Site.not_directive_of_inValue {site : Site} (h : site.node.kind.inValue = true) :
    site.node.kind ≠ .directive := by
  intro hkind
  rw [hkind] at h
  cases h

theorem Site.argument?_of_inValue {site : Site} (h : site.node.kind.inValue = true) :
    site.argument? = none := by
  obtain ⟨node, inside⟩ := site
  cases node with
  | argument argument => cases h
  | _ => rfl

section

variable (schema : Schema)

mutual
theorem inValue_of_mem_value (here : Context) (value : Value) :
    ∀ site ∈ value.descent schema here, site.node.kind.inValue = true := by
  cases value with
  | enum name => simp [Value.descent, Node.kind, NodeKind.inValue]
  | list span items =>
      have hitems := inValue_of_mem_items here.inList items
      simpa [Value.descent, Node.kind, NodeKind.inValue] using hitems
  | object span fields => simpa [Value.descent] using inValue_of_mem_fields here fields
  | var | int | float | string | boolean | null => simp [Value.descent]

theorem inValue_of_mem_items (here : Context) (items : List Value) :
    ∀ site ∈ descentOfItems schema here items, site.node.kind.inValue = true := by
  cases items with
  | nil => simp [descentOfItems]
  | cons item rest =>
      rw [descentOfItems, List.forall_mem_append]
      exact ⟨inValue_of_mem_value here item, inValue_of_mem_items here rest⟩

theorem inValue_of_mem_objectField (here : Context) (field : ObjectField) :
    ∀ site ∈ field.descent schema here, site.node.kind.inValue = true := by
  obtain ⟨span, name, value⟩ := field
  cases value with
  | none => simp [ObjectField.descent, Node.kind, NodeKind.inValue]
  | some value =>
      have hvalue := inValue_of_mem_value (here.inObjectField schema name.text) value
      simpa [ObjectField.descent, Node.kind, NodeKind.inValue] using hvalue

theorem inValue_of_mem_fields (here : Context) (fields : List ObjectField) :
    ∀ site ∈ descentOfFields schema here fields, site.node.kind.inValue = true := by
  cases fields with
  | nil => simp [descentOfFields]
  | cons field rest =>
      rw [descentOfFields, List.forall_mem_append]
      exact ⟨inValue_of_mem_objectField here field, inValue_of_mem_fields here rest⟩
end

theorem inValue_of_mem_optional (here : Context) (value : Option Value) :
    ∀ site ∈ descentOfOptional schema here value, site.node.kind.inValue = true := by
  cases value with
  | none => simp [descentOfOptional]
  | some value => exact inValue_of_mem_value schema here value

/-- An argument is at the first of its sites only. -/
theorem filterMap_argument?_descent (here : Context) (offered : Option (Table InputValueDef))
    (argument : Argument) :
    (argument.descent schema here offered).filterMap Site.argument? =
      [(argument, (here.inArgument schema offered argument.name.text).input)] := by
  have hvalue : (descentOfOptional schema (here.inArgument schema offered argument.name.text)
      argument.value).filterMap Site.argument? = [] := by
    rw [List.filterMap_eq_nil_iff]
    exact fun site hsite ↦
      Site.argument?_of_inValue (inValue_of_mem_optional schema _ argument.value site hsite)
  rw [Argument.descent, List.filterMap_cons, hvalue]
  rfl

theorem not_directive_of_mem_argument (here : Context) (offered : Option (Table InputValueDef))
    (argument : Argument) :
    ∀ site ∈ argument.descent schema here offered, site.node.kind ≠ .directive := by
  rw [Argument.descent, List.forall_mem_cons]
  refine ⟨by simp [Node.kind], fun site hsite ↦ ?_⟩
  exact Site.not_directive_of_inValue (inValue_of_mem_optional schema _ argument.value site hsite)

theorem not_directive_of_mem_argumentSites (here : Context) (directive : Directive) :
    ∀ site ∈ directive.argumentSites schema here, site.node.kind ≠ .directive := by
  intro site hsite
  obtain ⟨argument, -, hargument⟩ := List.mem_flatMap.mp hsite
  exact not_directive_of_mem_argument schema here _ argument site hargument

end

/-! ## Sites with directives -/

section

variable {schema : Schema}

namespace ArgumentsFollow

theorem of_not_directive {sites : List Site} (h : ∀ site ∈ sites, site.node.kind ≠ .directive) :
    ArgumentsFollow schema sites := by
  intro before directive here after hsites
  have hmem : ⟨.directive directive, here⟩ ∈ sites := by simp [hsites]
  exact absurd rfl (h _ hmem)

theorem of_inValue {sites : List Site} (h : ∀ site ∈ sites, site.node.kind.inValue = true) :
    ArgumentsFollow schema sites :=
  of_not_directive fun site hsite ↦ Site.not_directive_of_inValue (h site hsite)

theorem append {first second : List Site} (hfirst : ArgumentsFollow schema first)
    (hsecond : ArgumentsFollow schema second) : ArgumentsFollow schema (first ++ second) := by
  intro before directive here after hsites
  rcases List.append_eq_append_iff.mp hsites with ⟨middle, -, hlater⟩ | ⟨middle, hearlier, hrest⟩
  · exact hsecond middle directive here after hlater
  · -- The directive is the last but `middle` of the first list, or begins the second one.
    cases middle with
    | nil => exact hsecond [] directive here after hrest.symm
    | cons site rest =>
        obtain ⟨rfl, rfl⟩ := List.cons.inj hrest
        exact (hfirst before directive here rest hearlier).trans (List.prefix_append rest second)

theorem cons {node : Node} {inside : Context} {sites : List Site}
    (hnode : node.kind ≠ .directive) (h : ArgumentsFollow schema sites) :
    ArgumentsFollow schema (⟨node, inside⟩ :: sites) := by
  have hhead : ArgumentsFollow schema [⟨node, inside⟩] :=
    of_not_directive (by simpa using hnode)
  exact hhead.append h

theorem flatMap {α : Type} {sites : α → List Site}
    (h : ∀ item, ArgumentsFollow schema (sites item)) (items : List α) :
    ArgumentsFollow schema (items.flatMap sites) := by
  induction items with
  | nil => exact of_not_directive (by simp)
  | cons item rest ih =>
      rw [List.flatMap_cons]
      exact (h item).append ih

/-- A directive is followed by its arguments, among which there is no other directive. -/
theorem directive (here : Context) (directive : Directive) :
    ArgumentsFollow schema (directive.descent schema here) := by
  intro before other there after hsites
  cases before with
  | nil =>
      obtain ⟨hsite, rfl⟩ := List.cons.inj hsites
      cases hsite
      exact List.prefix_rfl
  | cons site rest =>
      -- Any other directive would be among the arguments.
      obtain ⟨-, harguments⟩ := List.cons.inj hsites
      have hmem : ⟨.directive other, there⟩ ∈ directive.argumentSites schema here := by
        rw [Directive.argumentSites, harguments]
        simp
      exact absurd rfl (not_directive_of_mem_argumentSites schema here directive _ hmem)

theorem directives (here : Context) (directives : List Directive) :
    ArgumentsFollow schema (directives.flatMap (Directive.descent schema here)) :=
  flatMap (directive here) directives

theorem arguments (here : Context) (offered : Option (Table InputValueDef))
    (arguments : List Argument) :
    ArgumentsFollow schema (arguments.flatMap (Argument.descent schema here offered)) :=
  flatMap (fun argument ↦
    of_not_directive (not_directive_of_mem_argument schema here offered argument)) arguments

theorem condition (here : Context) (condition : Option Name) :
    ArgumentsFollow schema (descentOfCondition here condition) := by
  cases condition with
  | none => exact of_not_directive (by simp [descentOfCondition])
  | some name => exact of_not_directive (by simp [descentOfCondition, Node.kind])

mutual
theorem field (here : Context) (field : Field) :
    ArgumentsFollow schema (field.descent schema here) := by
  obtain ⟨span, aliasName, name, own, added, selections⟩ := field
  let inside := here.inField schema name.text
  have hown : ArgumentsFollow schema (own.flatMap _) :=
    arguments inside (inside.field.map (·.arguments)) own
  have hparts := hown.append (directives inside added)
  cases selections with
  | none => exact hparts.cons (by simp [Node.kind])
  | some selections =>
      exact (hparts.append (selectionSet inside selections)).cons (by simp [Node.kind])

theorem inlineFragment (here : Context) (fragment : InlineFragment) :
    ArgumentsFollow schema (fragment.descent schema here) := by
  obtain ⟨span, target, added, selections⟩ := fragment
  let inside := here.inInline schema target
  have htarget : ArgumentsFollow schema (descentOfCondition inside target) :=
    condition inside target
  have hparts := htarget.append (directives inside added)
  exact (hparts.append (selectionSet inside selections)).cons (by simp [Node.kind])

theorem selectionSet (here : Context) (set : SelectionSet) :
    ArgumentsFollow schema (set.descent schema here) := by
  obtain ⟨span, items⟩ := set
  exact (selections here.inSelections items).cons (by simp [Node.kind])

theorem selection (here : Context) (selection : Selection) :
    ArgumentsFollow schema (selection.descent schema here) := by
  cases selection with
  | field it => exact field here it
  | inline it => exact inlineFragment here it
  | spread span name added => exact (directives here added).cons (by simp [Node.kind])

theorem selections (here : Context) (items : List Selection) :
    ArgumentsFollow schema (descentOfSelections schema here items) := by
  cases items with
  | nil => exact of_not_directive (by simp [descentOfSelections])
  | cons item rest => exact (selection here item).append (selections here rest)
end

theorem variableDefinition (here : Context) (definition : VariableDefinition) :
    ArgumentsFollow schema (definition.descent schema here) := by
  let inside := here.inVariable schema definition.type
  have hdefault : ArgumentsFollow schema (descentOfOptional schema inside definition.default) :=
    of_inValue (inValue_of_mem_optional schema inside definition.default)
  have hparts := hdefault.append (directives inside definition.directives)
  exact (hparts.cons (by simp [Node.kind])).cons (by simp [Node.kind])

theorem operation (here : Context) (operation : Operation) :
    ArgumentsFollow schema (operation.descent schema here) := by
  let inside := here.inOperation schema operation.kind
  have hvariables : ArgumentsFollow schema _ :=
    flatMap (variableDefinition inside) operation.variableDefinitions
  have hparts := hvariables.append (directives inside operation.directives)
  exact (hparts.append (selectionSet inside operation.selections)).cons (by simp [Node.kind])

theorem fragment (here : Context) (fragment : Fragment) :
    ArgumentsFollow schema (fragment.descent schema here) := by
  let inside := here.underCondition schema fragment.condition.text
  have hdirectives : ArgumentsFollow schema _ := directives inside fragment.directives
  have hparts := hdirectives.append (selectionSet inside fragment.selections)
  exact (hparts.cons (by simp [Node.kind])).cons (by simp [Node.kind])

theorem definition (here : Context) (definition : Definition) :
    ArgumentsFollow schema (definition.descent schema here) := by
  cases definition with
  | operation it => exact operation here it
  | fragment it => exact fragment here it
  | schema | directive | type | extendSchema | extendType =>
      exact of_not_directive (by simp [Definition.descent])

theorem document (document : Document) : ArgumentsFollow schema (document.descent schema) :=
  (flatMap (definition .outside) document.definitions).cons (by simp [Node.kind])

end ArgumentsFollow

end

/-! ## What arguments of directives are given for -/

theorem Context.input_inArgument_offeredBy (schema : Schema) (here : Context)
    (directive argument : String) :
    (here.inArgument schema (here.offeredBy schema directive) argument).input =
      here.inputWithin schema directive argument := by
  unfold inArgument offeredBy inputWithin Schema.directiveInput fieldInput
  cases schema.directive? directive with
  | none => cases here.field <;> rfl
  | some definition => rfl

/-- What the schema declares counts if the schema has the directive, and if there is nothing else
that could. -/
theorem Context.inputWithin_eq_directiveInput_iff (schema : Schema) (here : Context)
    (directive argument : String) :
    here.inputWithin schema directive argument = schema.directiveInput directive argument ↔
      (schema.directive? directive).isSome ∨ here.fieldInput schema argument = none := by
  unfold inputWithin Schema.directiveInput
  cases schema.directive? directive with
  | none => simp
  | some definition => simp

/-- The arguments of a directive that stands here, each with what it is given for. -/
theorem Language.Directive.filterMap_argument?_argumentSites (schema : Schema) (here : Context)
    (directive : Directive) :
    (directive.argumentSites schema here).filterMap Site.argument? =
      directive.arguments.map fun argument ↦
        (argument, here.inputWithin schema directive.name.text argument.name.text) := by
  rw [argumentSites, List.filterMap_flatMap, List.map_eq_flatMap]
  refine List.flatMap_congr fun argument _ ↦ ?_
  rw [filterMap_argument?_descent, Context.input_inArgument_offeredBy]

/-- In the walk of a document, the arguments of a directive come right after it, in order, wherever
it stands. They are given for what the schema declares for the directive exactly if the schema has
the directive or the field in force has nothing under their names. -/
theorem Language.Document.input_of_directive_argument {schema : Schema} {document : Document}
    {before after : List Site} {directive : Directive} {here : Context}
    (h : document.sites schema = before ++ ⟨.directive directive, here⟩ :: after) :
    directive.argumentSites schema here <+: after ∧
      (directive.argumentSites schema here).filterMap Site.argument? =
        directive.arguments.map (fun argument ↦
          (argument, here.inputWithin schema directive.name.text argument.name.text)) ∧
      ∀ argument : String,
        here.inputWithin schema directive.name.text argument =
            schema.directiveInput directive.name.text argument ↔
          (schema.directive? directive.name.text).isSome ∨
            here.fieldInput schema argument = none := by
  have hsites : document.sites schema = document.descent schema :=
    (Tracker.covers_document schema document).sites_eq
  have hfollow : ArgumentsFollow schema (document.sites schema) := by
    rw [hsites]
    exact .document document
  refine ⟨hfollow before directive here after h, ?_, ?_⟩
  · exact directive.filterMap_argument?_argumentSites schema here
  · exact here.inputWithin_eq_directiveInput_iff schema directive.name.text

/-- A directive that the schema has on a field that takes an argument of the same name: the argument
of the directive is given for the type that the directive declares. -/
theorem Language.Document.input_of_directive_argument_declared :
    let name (text : String) : Name := ⟨text, default⟩
    let scalar (text : String) : TypeDef := .bare text .scalar none
    let taking (type : String) : Table InputValueDef :=
      .ofList [("x", ⟨"x", none, .named type, none⟩)]
    let field : FieldDef := ⟨"f", none, .named "Int", taking "Int", none⟩
    let query : TypeDef := ⟨"Query", .object, none, .ofList [("f", field)], .empty, .empty⟩
    let schema : Schema :=
      { types := .ofList [("Query", query), ("Int", scalar "Int"), ("ID", scalar "ID")]
        directives := .ofList [("d", ⟨"d", taking "ID"⟩)]
        roots := ⟨some "Query", none, none⟩ }
    let argument : Argument := ⟨default, name "x", none⟩
    let directive : Directive := ⟨default, name "d", [argument]⟩
    let selections : SelectionSet :=
      ⟨default, [.field ⟨default, none, name "f", [], [directive], none⟩]⟩
    let document : Document := ⟨default, [.operation ⟨default, .query, none, [], [], selections⟩]⟩
    let here : Context := ⟨some (.named (scalar "Int")), some query, some field, none, none⟩
    ∃ before after,
      document.sites schema = before ++ ⟨.directive directive, here⟩ :: after ∧
      directive.argumentSites schema here <+: after ∧
      (directive.argumentSites schema here).filterMap Site.argument? =
        [(argument, some (.named (scalar "ID")))] ∧
      here.fieldInput schema "x" = some (.named (scalar "Int")) := by
  intro name scalar taking field query schema argument directive selections document here
  have hsites : document.sites schema =
      (document.sites schema).take 4 ++ ⟨.directive directive, here⟩ ::
        (document.sites schema).drop 5 := rfl
  obtain ⟨hfollow, harguments, -⟩ := input_of_directive_argument hsites
  exact ⟨_, _, hsites, hfollow, harguments.trans rfl, rfl⟩

/-- A directive that the schema does not have, on a field that takes an enum under the same name:
the argument of the directive is given for the enum, and its value is found to be deprecated. -/
theorem Language.Document.input_of_directive_argument_unknown :
    (do
      let schema ← (Schema.load
        "enum E \x7b A B @deprecated \x7d type Query \x7b f(x: E): Int \x7d").toOption
      let document ← (Document.read "query Q \x7b f @unknown(x: B) \x7d").toOption
      let given := ((document.sites schema).filterMap Site.argument?).map fun (argument, input) ↦
        (argument.name.text, input.map (·.render))
      let diagnostics := (Linter.empty.add Rules.noDeprecated .warning).check schema document
      return (schema.directiveInput "unknown" "x", given, diagnostics.map (·.message))) =
    some (none, [("x", some "E")], ["The enum value E.B is deprecated. No longer supported"]) := by
  decide +kernel

end QueryLint
