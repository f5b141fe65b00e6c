import Mathlib.Data.List.Forall2
import Mathlib.Data.List.ReduceOption
import QueryLint.Config.Apply
import QueryLint.Proofs.Outcome

/-!
# What a configuration makes of the catalogue

Main statement: `Config.linter_eq_ok_iff`. A linter from a configuration has what the configuration
makes of each rule of the catalogue, one after the other. What it makes of a rule
(`Config.enabled?`) is that rule with its options, at the severity of its level, or nothing.
-/

namespace QueryLint

/-! ## Options -/

namespace Catalogue

/-- Options only choose the required fields. -/
theorem eq_of_requiredFieldsWith {options : Option Json} {rule : Rule}
    (h : requiredFieldsWith options = .ok rule) :
    ∃ required, rule = Rules.requiredFields required := by
  unfold requiredFieldsWith at h
  cases options with
  | none => cases h
  | some value =>
      cases hread : decodeRequiredFields value with
      | error cause =>
          simp only [hread] at h
          cases h
      | ok required =>
          simp only [hread] at h
          cases h
          exact ⟨required, rfl⟩

/-- With options a rule keeps its name. -/
theorem name_of_configure {rule configured : Rule} {options : Option Json}
    (h : configure rule options = .ok configured) : configured.name = rule.name := by
  unfold configure at h
  split at h
  · next hname =>
      obtain ⟨required, rfl⟩ := eq_of_requiredFieldsWith h
      exact hname.symm
  · cases h
    rfl

end Catalogue

/-! ## Rules -/

namespace Config

/-- A rule with its options and at its severity, if a configuration enables it. -/
def enabled? (config : Config) (rule : Rule) : Except ConfigError (Option ActiveRule) :=
  match (config.level? rule.name).bind Level.severity? with
  | none => .ok none
  | some severity => do
    let configured ← Catalogue.configure rule (config.options? rule.name)
    return some ⟨configured, severity⟩

variable {config : Config} {rule : Rule} {linter : Linter}

theorem enabled?_eq_none_iff :
    config.enabled? rule = .ok none ↔ (config.level? rule.name).bind Level.severity? = none := by
  unfold enabled?
  cases (config.level? rule.name).bind Level.severity? with
  | none => simp
  | some severity =>
      cases Catalogue.configure rule (config.options? rule.name) <;>
        simp [bind, Except.bind, pure, Except.pure]

theorem enabled?_eq_some_iff {active : ActiveRule} :
    config.enabled? rule = .ok (some active) ↔
      (config.level? rule.name).bind Level.severity? = some active.severity ∧
        Catalogue.configure rule (config.options? rule.name) = .ok active.rule := by
  unfold enabled?
  cases (config.level? rule.name).bind Level.severity? with
  | none => simp
  | some severity =>
      cases Catalogue.configure rule (config.options? rule.name) with
      | error cause => simp [bind, Except.bind]
      | ok configured =>
          obtain ⟨rule, other⟩ := active
          simp [bind, Except.bind, pure, Except.pure, and_comm]

/-- Enabling a rule adds what the configuration makes of it. -/
theorem enable_eq_ok_iff {enabled : Linter} :
    config.enable linter rule = .ok enabled ↔
      ∃ active, config.enabled? rule = .ok active ∧
        enabled = ⟨linter.rules ++ active.toList⟩ := by
  unfold enable enabled?
  cases (config.level? rule.name).bind Level.severity? with
  | none => simp [@eq_comm _ enabled]
  | some severity =>
      cases Catalogue.configure rule (config.options? rule.name) <;>
        simp [bind, Except.bind, pure, Except.pure, Linter.add, @eq_comm _ enabled]

/-! ## Linters -/

/-- Enabling rules one after the other adds what the configuration makes of each. -/
theorem foldlM_enable_eq_ok_iff {rules : List Rule} {enabled : Linter} :
    rules.foldlM config.enable linter = .ok enabled ↔
      ∃ made, List.Forall₂ (fun rule active ↦ config.enabled? rule = .ok active) rules made ∧
        enabled = ⟨linter.rules ++ made.reduceOption⟩ := by
  induction rules generalizing linter with
  | nil =>
      rw [foldlM_nil_eq_ok_iff]
      simp
  | cons rule rest ih =>
      rw [foldlM_cons_eq_ok_iff]
      constructor
      · rintro ⟨next, hnext, hrest⟩
        obtain ⟨active, hactive, rfl⟩ := enable_eq_ok_iff.mp hnext
        obtain ⟨made, hmade, rfl⟩ := ih.mp hrest
        exact ⟨active :: made, .cons hactive hmade, by cases active <;> simp⟩
      · rintro ⟨made, hmade, rfl⟩
        cases hmade with
        | @cons _ active _ made hactive hmade =>
            refine ⟨_, enable_eq_ok_iff.mpr ⟨active, hactive, rfl⟩, ih.mpr ⟨made, hmade, ?_⟩⟩
            cases active <;> simp

/-- A configuration gives a linter if it is valid and its rules get the options that they need. The
linter has what the configuration makes of the rules, in the order of the catalogue. -/
theorem linter_eq_ok_iff :
    config.linter = .ok linter ↔
      config.validate = .ok () ∧
        ∃ made, List.Forall₂ (fun rule active ↦ config.enabled? rule = .ok active)
          Catalogue.rules made ∧ linter = ⟨made.reduceOption⟩ := by
  unfold Config.linter
  rw [bind_eq_ok_iff]
  constructor
  · rintro ⟨_, hvalid, hrules⟩
    exact ⟨hvalid, foldlM_enable_eq_ok_iff.mp hrules⟩
  · rintro ⟨hvalid, hmade⟩
    exact ⟨(), hvalid, foldlM_enable_eq_ok_iff.mpr hmade⟩

/-- Every rule of a linter is what the configuration makes of a rule of the catalogue. -/
theorem exists_enabled?_of_mem (h : config.linter = .ok linter) {active : ActiveRule}
    (hactive : active ∈ linter.rules) :
    ∃ rule ∈ Catalogue.rules, config.enabled? rule = .ok (some active) := by
  obtain ⟨-, made, hmade, rfl⟩ := linter_eq_ok_iff.mp h
  obtain ⟨place, hplace⟩ := List.get_of_mem (List.reduceOption_mem_iff.mp hactive)
  have hlength : place.val < Catalogue.rules.length := by
    rw [hmade.length_eq]
    exact place.isLt
  have hrule := hmade.get hlength place.isLt
  rw [hplace] at hrule
  exact ⟨_, List.get_mem _ _, hrule⟩

end Config

end QueryLint
