import QueryLint.Json.Value
import QueryLint.Table

/-!
# Configurations

A `Config` names presets and gives single rules a severity, and possibly options. What it says about
a rule comes from its own entry, else from the presets.
-/

namespace QueryLint

/-- How a configuration wants the findings of a rule: not at all, as warnings or as errors. -/
inductive Level where
  | off
  | warn
  | error
  deriving DecidableEq, Repr

/-- The word for a level. -/
def Level.word : Level → String
  | off => "off"
  | warn => "warn"
  | error => "error"

/-- The level that a word means. -/
def Level.ofWord? : String → Option Level
  | "off" => some off
  | "warn" => some warn
  | "error" => some error
  | _ => none

/-- What a configuration says about one rule: a level, or a level with room for options. -/
inductive RuleEntry where
  | bare (level : Level)
  | detailed (level : Level) (options : Option Json)

/-- The level of an entry. -/
def RuleEntry.level : RuleEntry → Level
  | bare level | detailed level _ => level

/-- The options of an entry. -/
def RuleEntry.options? : RuleEntry → Option Json
  | bare _ => none
  | detailed _ options => options

/-- Names of presets, written as one name or as a list. -/
inductive Presets where
  | single (name : String)
  | multiple (names : List String)
  deriving DecidableEq, Repr

/-- The names of presets. -/
def Presets.names : Presets → List String
  | single name => [name]
  | multiple names => names

/-- A configuration: presets alone, or presets that may be missing with entries for rules. -/
inductive Config where
  | presets (presets : Presets)
  | full (presets : Option Presets) (rules : Table RuleEntry)

namespace Config

/-- The name of the only preset there is. -/
def recommendedName : String := "recommended"

/-- The configuration with that preset. -/
def recommended : Config := .presets (.single recommendedName)

/-- The configuration that says nothing. -/
def default : Config := .full none .empty

/-- The level that the recommended preset gives to a rule. The rule that needs options is not in it.
-/
def recommendedLevel? : String → Option Level
  | "operations_must_have_names" => some .error
  | "type_names_should_be_capitalized" | "no_deprecated_fields" => some .warn
  | _ => none

end Config

/-- The level that presets give to a rule; of several, the last one that has it counts. -/
def Presets.level? (presets : Presets) (rule : String) : Option Level :=
  presets.names.foldl
    (fun found name ↦
      if name = Config.recommendedName then Config.recommendedLevel? rule <|> found else found)
    none

namespace Config

/-- The presets of a configuration. -/
def presets? : Config → Option Presets
  | presets names => some names
  | full names _ => names

/-- The entries of a configuration. -/
def entries : Config → Table RuleEntry
  | presets _ => .empty
  | full _ rules => rules

/-- The level of a rule: that of its entry, else that of the presets. -/
def level? (config : Config) (rule : String) : Option Level :=
  (config.entries.get? rule).map RuleEntry.level <|> config.presets?.bind (·.level? rule)

/-- The options of a rule; presets have none. -/
def options? (config : Config) (rule : String) : Option Json :=
  (config.entries.get? rule).bind RuleEntry.options?

end Config

end QueryLint
