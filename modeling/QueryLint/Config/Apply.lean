import QueryLint.Lint.Catalogue
import QueryLint.Lint.Linter

/-!
# From a configuration to a linter

A configuration that names only known presets and rules enables the rules that it sets to a warning
or an error, in the order of the catalogue.
-/

namespace QueryLint

/-- The severity of the findings of a rule at a level; `none` if the rule is off. -/
def Level.severity? : Level → Option Severity
  | off => none
  | warn => some .warning
  | error => some .error

/-- All presets are known, or the first that is not is reported. -/
def Presets.validate (presets : Presets) : Except ConfigError Unit :=
  match presets.names.find? (· != Config.recommendedName) with
  | some name => .error (.unknownPreset name)
  | none => .ok ()

namespace Config

/-- The names of entries that are not those of rules, sorted. -/
def unknownRules (config : Config) : List String :=
  (config.entries.keys.filter fun name ↦ !Catalogue.names.contains name).mergeSort

/-- All presets and rules that a configuration names are known. Presets come first. -/
def validate (config : Config) : Except ConfigError Unit := do
  if let some names := config.presets? then names.validate
  unless config.unknownRules.isEmpty do
    throw (.unknownRules config.unknownRules Catalogue.names)

/-- Add a rule of the catalogue if a configuration enables it. -/
def enable (config : Config) (linter : Linter) (rule : Rule) : Except ConfigError Linter :=
  match (config.level? rule.name).bind Level.severity? with
  | none => .ok linter
  | some severity => do
    let configured ← Catalogue.configure rule (config.options? rule.name)
    return linter.add configured severity

/-- The linter that a configuration describes. -/
def linter (config : Config) : Except ConfigError Linter := do
  config.validate
  Catalogue.rules.foldlM config.enable .empty

end Config

end QueryLint
