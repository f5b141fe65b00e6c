import QueryLint.Config.Decode

/-!
# Writing configurations as JSON

Presets are written as they are read. An entry is written as an object that tells its form apart.
-/

namespace QueryLint

/-- An entry as JSON: its only member names its form. -/
def RuleEntry.encode : RuleEntry → Json
  | bare level => .object [("Severity", .string level.word)]
  | detailed level options =>
    .object [("Detailed", .object ((levelMember, .string level.word) ::
      (options.map fun value ↦ (optionsMember, value)).toList))]

/-- Presets as JSON. -/
def Presets.encode : Presets → Json
  | single name => .string name
  | multiple names => .array (names.map .string)

/-- A configuration as JSON. Presets that are missing and an empty table of rules are left out. -/
def Config.encode : Config → Json
  | presets names => names.encode
  | full names rules =>
    .object ((names.map fun given ↦ (presetsMember, given.encode)).toList ++
      if rules.entries.isEmpty then []
      else [(rulesMember, .object (rules.entries.map fun (name, entry) ↦ (name, entry.encode)))])

end QueryLint
