import QueryLint.Lint.Rules.Deprecated
import QueryLint.Proofs.Lint.Dispatch
import QueryLint.Proofs.Tracking.Agreement

/-!
# Every use of something deprecated is reported

Main statement: `Linter.check_noDeprecated`. The rule reports a field exactly if the type it is
selected on has a deprecated field of that name, and an enum value exactly if the enum it is given
for has it as a deprecated value, with the types that are handed down through the document.
-/

namespace QueryLint

open QueryLint.Language

/-- What a message adds about a deprecation: a space and the reason, or nothing where the reason is
missing or empty. -/
def Deprecation.remark (deprecation : Deprecation) : String :=
  match deprecation.reason with
  | some "" | none => ""
  | some reason => " " ++ reason

/-- The message about a site where something deprecated is used. A field is looked up on the type it
is selected on, an enum value in the type it is given for. -/
def Site.deprecation? (site : Site) : Option String :=
  match site.node with
  | .field field => do
      let owner ← site.context.parent
      let definition ← owner.selectable? field.name.text
      let deprecation ← definition.deprecation
      return "The field " ++ owner.name ++ "." ++ definition.name ++ " is deprecated." ++
        deprecation.remark
  | .enumValue name => do
      let type ← site.context.input
      let value ← type.namedType.enumValue? name.text
      let deprecation ← value.deprecation
      return "The enum value " ++ type.namedType.name ++ "." ++ value.name ++ " is deprecated." ++
        deprecation.remark
  | _ => none

/-- Whether the definition that is in force at a field or an enum value is deprecated. -/
def Site.showsDeprecated (site : Site) : Bool :=
  match site.node with
  | .field _ => site.context.field.any (·.deprecation.isSome)
  | .enumValue _ => site.context.enumValue.any (·.deprecation.isSome)
  | _ => false

theorem Rules.withReason_eq_append_remark (message : String) (deprecation : Deprecation) :
    withReason message deprecation.reason = message ++ deprecation.remark := by
  unfold withReason Deprecation.remark
  cases deprecation.reason with
  | none => simp
  | some reason =>
      by_cases h : reason = ""
      · simp [h]
      · simp [h, String.append_assoc]

/-- At a field the handler for fields has the message, if any, whatever it asks for first. -/
theorem Rules.deprecatedField_eq_toList {schema : Schema} {site : Site} {field : Field}
    (h : site.Linked schema) (hnode : site.node = .field field) :
    deprecatedField site = site.deprecation?.toList := by
  unfold deprecatedField Site.deprecation?
  -- With the field in force looked up on the parent, a missing parent leaves no field to report.
  rw [hnode, h.field field hnode]
  cases site.context.parent with
  | none => rfl
  | some owner =>
      simp only [Option.bind_some, Option.bind_eq_bind]
      cases owner.selectable? field.name.text with
      | none => rfl
      | some definition =>
          simp only [Option.bind_some]
          cases definition.deprecation with
          | none => rfl
          | some deprecation => simp [withReason_eq_append_remark]

/-- At an enum value the handler for enum values has the message, if any. -/
theorem Rules.deprecatedEnumValue_eq_toList {schema : Schema} {site : Site} {name : Name}
    (h : site.Linked schema) (hnode : site.node = .enumValue name) :
    deprecatedEnumValue site = site.deprecation?.toList := by
  unfold deprecatedEnumValue Site.deprecation?
  rw [hnode, h.enumValue name hnode]
  cases site.context.input with
  | none => rfl
  | some type =>
      simp only [Option.bind_some, Option.bind_eq_bind]
      cases type.namedType.enumValue? name.text with
      | none => rfl
      | some value =>
          simp only [Option.bind_some]
          cases value.deprecation with
          | none => rfl
          | some deprecation => simp [withReason_eq_append_remark]

/-- At a linked site the rule has the one message about the deprecation there, if there is one. -/
theorem Rules.messages_noDeprecated {schema : Schema} {site : Site} (h : site.Linked schema) :
    noDeprecated.messages site = site.deprecation?.toList := by
  cases hnode : site.node with
  | field field =>
      rw [← deprecatedField_eq_toList h hnode]
      simp [Rule.messages, noDeprecated, hnode, Node.kind]
  | enumValue name =>
      rw [← deprecatedEnumValue_eq_toList h hnode]
      simp [Rule.messages, noDeprecated, hnode, Node.kind]
  | _ => simp [Rule.messages, noDeprecated, hnode, Node.kind, Site.deprecation?]

/-- A deprecated definition is in force at a linked site exactly if there is a message about it. -/
theorem Site.showsDeprecated_eq_isSome {schema : Schema} {site : Site} (h : site.Linked schema) :
    site.showsDeprecated = site.deprecation?.isSome := by
  unfold showsDeprecated deprecation?
  cases hnode : site.node with
  | field field =>
      have hfield := h.field field hnode
      simp [hfield, Option.isSome_bind, Option.any_bind, Function.comp_def]
  | enumValue name =>
      have hvalue := h.enumValue name hnode
      simp [hvalue, Option.isSome_bind, Option.any_bind, Function.comp_def]
  | _ => rfl

/-- The diagnostic about a site where something deprecated is used. -/
def Site.deprecationAt? (severity : Severity) (site : Site) : Option Diagnostic :=
  site.deprecation?.map fun message ↦
    ⟨message, "no_deprecated_fields", severity, [site.node.toRef]⟩

/-- At a linked site the rule reports once or not at all. -/
theorem Rules.check_noDeprecated_eq_toList {schema : Schema} {site : Site}
    (h : site.Linked schema) (severity : Severity) :
    noDeprecated.check severity site = (site.deprecationAt? severity).toList := by
  unfold Rule.check Site.deprecationAt?
  rw [messages_noDeprecated h]
  cases site.deprecation? <;> rfl

/-- The sites with a diagnostic are those where a deprecated definition is in force. -/
theorem Site.map_nodes_filterMap_deprecationAt? {schema : Schema} {sites : List Site}
    (h : ∀ site ∈ sites, site.Linked schema) (severity : Severity) :
    (sites.filterMap (deprecationAt? severity)).map (·.nodes) =
      (sites.filter showsDeprecated).map fun site ↦ [site.node.toRef] := by
  induction sites with
  | nil => rfl
  | cons site rest ih =>
      have hsite := showsDeprecated_eq_isSome (h site List.mem_cons_self)
      have hrest := ih fun other hother ↦ h other (List.mem_cons_of_mem site hother)
      -- Whether the site is kept on the right is whether it has a message on the left.
      rw [List.filterMap_cons, List.filter_cons, hsite, deprecationAt?]
      cases site.deprecation? with
      | none => simpa using hrest
      | some message => simpa using hrest

/-- A linter with the rule about deprecations reports, in the order of the walk, every field that
its type has as deprecated and every enum value that its enum has as deprecated, once each and
nothing else. The definitions that are in force tell the same: no deprecated one goes unreported. -/
theorem Linter.check_noDeprecated (schema : Schema) (document : Document) (severity : Severity) :
    (empty.add Rules.noDeprecated severity).check schema document =
        (document.descent schema).filterMap (Site.deprecationAt? severity) ∧
      ((empty.add Rules.noDeprecated severity).check schema document).map (·.nodes) =
        ((document.sites schema).filter Site.showsDeprecated).map fun site ↦
          [site.node.toRef] := by
  have hlinked : ∀ site ∈ document.sites schema, site.Linked schema :=
    fun site hsite ↦ Site.linked_of_mem hsite
  have hsites : document.sites schema = document.descent schema :=
    (Tracker.covers_document schema document).sites_eq
  have hcheck : (empty.add Rules.noDeprecated severity).check schema document =
      (document.sites schema).filterMap (Site.deprecationAt? severity) := by
    rw [List.filterMap_eq_flatMap_toList]
    exact check_add_empty_of_linked
      (fun site h ↦ Rules.check_noDeprecated_eq_toList h severity) document
  refine ⟨?_, ?_⟩
  · rw [hcheck, hsites]
  · rw [hcheck]
    exact Site.map_nodes_filterMap_deprecationAt? hlinked severity

end QueryLint
