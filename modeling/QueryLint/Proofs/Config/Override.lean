import QueryLint.Proofs.Config.Enabled
import QueryLint.Proofs.Lint.Dispatch
import QueryLint.Proofs.Lint.Growth

/-!
# What the entry of a rule decides

Main statement: `Config.linter_insert`. With another entry for a rule, a configuration has other
findings of that rule, or none, and the same findings of all others.

An entry changes what a configuration makes of the rule of its name
(`Config.enabled?_insert_of_ne`). The linter has one rule changed then
(`Config.linter_insert_filterMap`), and the findings are those of the rules one by one
(`Linter.check_filterMap_rules`).
-/

namespace QueryLint

open QueryLint.Language

/-! ## Changing the rules of a linter -/

namespace Linter

variable (linter : Linter) (name : String) (schema : Schema) (document : Document)

/-- A linter whose rules are changed one by one has its findings changed one by one, if those of
every rule are. -/
theorem check_filterMap_rules {change : ActiveRule → Option ActiveRule}
    {report : Diagnostic → Option Diagnostic}
    (h : ∀ active site,
      (change active).toList.flatMap (fun changed ↦ changed.rule.check changed.severity site) =
        (active.rule.check active.severity site).filterMap report) :
    (Linter.mk (linter.rules.filterMap change)).check schema document =
      (linter.check schema document).filterMap report := by
  rw [check_eq_flatMap_check, check_eq_flatMap_check, List.filterMap_flatMap]
  refine List.flatMap_congr fun site _ ↦ ?_
  rw [List.filterMap_flatMap, List.filterMap_eq_flatMap_toList, List.flatMap_assoc]
  exact List.flatMap_congr fun active _ ↦ h active site

/-- Without the rules of a name there are no findings under that name. -/
theorem check_filter_rules :
    (Linter.mk (linter.rules.filter (·.rule.name ≠ name))).check schema document =
      (linter.check schema document).filter (·.rule ≠ name) := by
  rw [← List.filterMap_eq_filter, ← List.filterMap_eq_filter]
  refine linter.check_filterMap_rules schema document fun active site ↦ ?_
  rw [List.filterMap_eq_filter, Rule.check, List.filter_map]
  by_cases h : active.rule.name = name <;> simp [Option.guard, Rule.check, h, Function.comp_def]

/-- With the rules of a name at another severity, the findings under that name are at that severity.
-/
theorem check_map_rules (severity : Severity) :
    (Linter.mk (linter.rules.map fun active ↦
        if active.rule.name = name then { active with severity } else active)).check
        schema document =
      (linter.check schema document).map fun found ↦
        if found.rule = name then { found with severity } else found := by
  rw [← List.filterMap_eq_map, ← List.filterMap_eq_map]
  refine linter.check_filterMap_rules schema document fun active site ↦ ?_
  rw [List.filterMap_eq_map]
  by_cases h : active.rule.name = name <;> simp [Rule.check, h]

end Linter

/-! ## Changing an entry -/

namespace Config

variable {presets : Option Presets} {entries : Table RuleEntry}

theorem level?_insert (name other : String) (entry : RuleEntry) :
    (full presets (entries.insert name entry)).level? other =
      if other = name then some entry.level else (full presets entries).level? other := by
  unfold level?
  rw [Config.entries, Table.get?_insert]
  by_cases h : other = name <;> simp [h, Config.entries, presets?]

theorem options?_insert (name other : String) (entry : RuleEntry) :
    (full presets (entries.insert name entry)).options? other =
      if other = name then entry.options? else (full presets entries).options? other := by
  unfold options?
  rw [Config.entries, Table.get?_insert]
  by_cases h : other = name <;> simp [h, Config.entries]

/-- An entry for a rule of the catalogue does not make a configuration invalid. -/
theorem validate_insert {name : String} (h : name ∈ Catalogue.names) (entry : RuleEntry) :
    (full presets (entries.insert name entry)).validate = (full presets entries).validate := by
  have hunknown : (full presets (entries.insert name entry)).unknownRules =
      (full presets entries).unknownRules := by
    unfold unknownRules
    rw [Config.entries, Table.keys_insert]
    by_cases hkey : name ∈ entries.keys
    · simp [hkey, Config.entries]
    · simp [hkey, Config.entries, h]
  unfold validate
  rw [hunknown]
  rfl

/-- If another configuration makes of every rule what a change makes of it, its linter has its rules
changed. -/
theorem linter_of_enabled? {config other : Config} {linter : Linter}
    (hlinter : config.linter = .ok linter) (hvalid : other.validate = config.validate)
    {change : ActiveRule → Option ActiveRule}
    (h : ∀ rule active, config.enabled? rule = .ok active →
      other.enabled? rule = .ok (active.bind change)) :
    other.linter = .ok ⟨linter.rules.filterMap change⟩ := by
  obtain ⟨hfirst, made, hmade, rfl⟩ := linter_eq_ok_iff.mp hlinter
  refine linter_eq_ok_iff.mpr ⟨hvalid.trans hfirst, made.map (·.bind change), ?_, ?_⟩
  · exact List.forall₂_map_right_iff.mpr (hmade.imp h)
  · simp [List.reduceOption, List.filterMap_filterMap, List.filterMap_map]

/-- What a configuration makes of a rule goes by the name of the rule. -/
theorem name_of_enabled? {config : Config} {rule : Rule} {active : ActiveRule}
    (h : config.enabled? rule = .ok (some active)) : active.rule.name = rule.name :=
  Catalogue.name_of_configure (enabled?_eq_some_iff.mp h).2

/-- An entry decides about the rule of its name only. -/
theorem enabled?_insert_of_ne {name : String} {rule : Rule} (h : rule.name ≠ name)
    (entry : RuleEntry) :
    (full presets (entries.insert name entry)).enabled? rule =
      (full presets entries).enabled? rule := by
  simp [enabled?, level?_insert, options?_insert, h]

section

variable {linter : Linter} {name : String} {entry : RuleEntry}

/-- An entry changes the rule of its name in the linter, and no other rule. -/
theorem linter_insert_filterMap (h : (full presets entries).linter = .ok linter)
    (hname : name ∈ Catalogue.names) {change : ActiveRule → Option ActiveRule}
    (hother : ∀ active, active.rule.name ≠ name → change active = some active)
    (hself : ∀ rule active, rule.name = name → (full presets entries).enabled? rule = .ok active →
      (full presets (entries.insert name entry)).enabled? rule = .ok (active.bind change)) :
    (full presets (entries.insert name entry)).linter =
      .ok ⟨linter.rules.filterMap change⟩ := by
  refine linter_of_enabled? h (validate_insert hname entry) fun rule active hactive ↦ ?_
  by_cases hrule : rule.name = name
  · exact hself rule active hrule hactive
  · rw [enabled?_insert_of_ne hrule, hactive]
    cases active with
    | none => rfl
    | some active =>
        rw [← name_of_enabled? hactive] at hrule
        rw [Option.bind_some, hother active hrule]

/-- With an entry that turns a rule off, the linter is without that rule. -/
theorem linter_insert_off (h : (full presets entries).linter = .ok linter)
    (hname : name ∈ Catalogue.names) (hoff : entry.level = .off) :
    (full presets (entries.insert name entry)).linter =
      .ok ⟨linter.rules.filter (·.rule.name ≠ name)⟩ := by
  rw [← List.filterMap_eq_filter]
  refine linter_insert_filterMap h hname (fun active hactive ↦ ?_)
    fun rule active hrule hactive ↦ ?_
  · simp [Option.guard, hactive]
  · have hnone : (full presets (entries.insert name entry)).enabled? rule = .ok none :=
      enabled?_eq_none_iff.mpr (by simp [level?_insert, hrule, hoff, Level.severity?])
    rw [hnone]
    cases active with
    | none => rfl
    | some active => simp [Option.guard, name_of_enabled? hactive, hrule]

/-- A rule that is in a linter is enabled by the configuration. -/
theorem enabled?_ne_none_of_mem_ruleNames {config : Config} (h : config.linter = .ok linter)
    {rule : Rule} (hrule : rule.name ∈ linter.ruleNames) : config.enabled? rule ≠ .ok none := by
  intro hnone
  obtain ⟨active, hmem, hactive⟩ := List.mem_map.mp hrule
  obtain ⟨source, -, hsource⟩ := exists_enabled?_of_mem h hmem
  have hsome := (enabled?_eq_some_iff.mp hsource).1
  rw [← name_of_enabled? hsource, hactive, enabled?_eq_none_iff.mp hnone] at hsome
  cases hsome

/-- With an entry at another severity and with the same options, the linter has the rule at that
severity. -/
theorem linter_insert_severity (h : (full presets entries).linter = .ok linter)
    (hname : name ∈ Catalogue.names) (henabled : name ∈ linter.ruleNames) {severity : Severity}
    (hlevel : entry.level.severity? = some severity)
    (hoptions : entry.options? = (full presets entries).options? name) :
    (full presets (entries.insert name entry)).linter =
      .ok ⟨linter.rules.map fun active ↦
        if active.rule.name = name then { active with severity } else active⟩ := by
  rw [← List.filterMap_eq_map]
  refine linter_insert_filterMap h hname (fun active hactive ↦ ?_)
    fun rule active hrule hactive ↦ ?_
  · simp [hactive]
  · subst hrule
    cases active with
    | none => exact absurd hactive (enabled?_ne_none_of_mem_ruleNames h henabled)
    | some active =>
        have hconfigured := (enabled?_eq_some_iff.mp hactive).2
        simp only [Option.bind_some, Function.comp_apply, name_of_enabled? hactive, if_true]
        refine enabled?_eq_some_iff.mpr ⟨?_, ?_⟩
        · simp [level?_insert, hlevel]
        · rw [options?_insert, if_pos rfl, hoptions]
          exact hconfigured

end

end Config

theorem Catalogue.name_mem_names {rule : Rule} (h : rule ∈ rules) : rule.name ∈ names := by
  unfold names
  rw [List.mem_mergeSort]
  exact List.mem_map_of_mem h

/-- The entry of a rule decides about the findings of that rule only. If it turns the rule off,
these findings are missing. If it enables the rule as before but at another severity, they are at
that severity. All other findings stay as they are. -/
theorem Config.linter_insert {presets : Option Presets} {entries : Table RuleEntry}
    {linter : Linter} (h : (full presets entries).linter = .ok linter) {rule : Rule}
    (hrule : rule ∈ Catalogue.rules) :
    (∀ entry : RuleEntry, entry.level = .off →
        ∃ other, (full presets (entries.insert rule.name entry)).linter = .ok other ∧
          ∀ schema document,
            other.check schema document =
              (linter.check schema document).filter (·.rule ≠ rule.name)) ∧
      (rule.name ∈ linter.ruleNames → ∀ (entry : RuleEntry) (severity : Severity),
        entry.level.severity? = some severity →
        entry.options? = (full presets entries).options? rule.name →
          ∃ other, (full presets (entries.insert rule.name entry)).linter = .ok other ∧
            ∀ schema document,
              other.check schema document =
                (linter.check schema document).map fun found ↦
                  if found.rule = rule.name then { found with severity } else found) := by
  have hname := Catalogue.name_mem_names hrule
  refine ⟨?_, ?_⟩
  · intro entry hoff
    exact ⟨_, linter_insert_off h hname hoff, linter.check_filter_rules rule.name⟩
  · intro henabled entry severity hlevel hoptions
    exact ⟨_, linter_insert_severity h hname henabled hlevel hoptions, fun schema document ↦
      linter.check_map_rules rule.name schema document severity⟩

/-- The recommended rules with required fields: to turn one off, or to make another one a warning,
leaves the findings of the others as they were. -/
theorem Config.linter_insert_recommended :
    let options : Json := .object [("requiredFields", .array [.string "id"])]
    let presets := Presets.single recommendedName
    let entries : Table RuleEntry :=
      .ofList [("required_fields", .detailed .error (some options))]
    let linter : Linter :=
      ⟨[⟨Rules.operationNames, .error⟩, ⟨Rules.requiredFields ["id"], .error⟩,
        ⟨Rules.typeNames, .warning⟩, ⟨Rules.noDeprecated, .warning⟩]⟩
    let schema := Schema.ofText "type Query \x7b me: Query id: ID key: ID @deprecated \x7d"
    let document := Document.ofText "\x7b key me \x7b key \x7d \x7d"
    let listed (found : List Diagnostic) := found.map fun found ↦ (found.rule, found.severity)
    (full presets entries).linter = .ok linter ∧
      listed (linter.check schema document) =
        [("operations_must_have_names", .error), ("no_deprecated_fields", .warning),
          ("required_fields", .error), ("no_deprecated_fields", .warning)] ∧
      (∃ other,
        (full presets (entries.insert "no_deprecated_fields" (.bare .off))).linter = .ok other ∧
          listed (other.check schema document) =
            [("operations_must_have_names", .error), ("required_fields", .error)]) ∧
      ∃ other,
        (full presets (entries.insert "required_fields" (.detailed .warn options))).linter =
            .ok other ∧
          listed (other.check schema document) =
            [("operations_must_have_names", .error), ("no_deprecated_fields", .warning),
              ("required_fields", .warning), ("no_deprecated_fields", .warning)] := by
  intro options presets entries linter schema document listed
  have hdeprecated : Rules.noDeprecated ∈ Catalogue.rules := by simp [Catalogue.rules]
  have hrequired : Rules.requiredFields [] ∈ Catalogue.rules := by simp [Catalogue.rules]
  have hvalid : (full presets entries).validate = .ok () := by
    have hname : "required_fields" ∈ Catalogue.names := Catalogue.name_mem_names hrequired
    have hunknown : (full presets entries).unknownRules = [] := by
      have hkeys : (full presets entries).entries.keys = ["required_fields"] := rfl
      simp [unknownRules, hkeys, hname]
    unfold validate
    rw [hunknown]
    rfl
  have hlinter : (full presets entries).linter = .ok linter := by
    refine linter_eq_ok_iff.mpr ⟨hvalid, linter.rules.map some, ?_, rfl⟩
    exact .cons rfl (.cons rfl (.cons rfl (.cons rfl .nil)))
  obtain ⟨off, hoff, hfiltered⟩ := (linter_insert hlinter hdeprecated).1 (.bare .off) rfl
  obtain ⟨warn, hwarn, hmapped⟩ :=
    (linter_insert hlinter hrequired).2 (by decide) (.detailed .warn options) .warning rfl rfl
  refine ⟨hlinter, by decide +kernel, ⟨off, hoff, ?_⟩, ⟨warn, hwarn, ?_⟩⟩
  · rw [hfiltered]
    decide +kernel
  · rw [hmapped]
    decide +kernel

end QueryLint
