import QueryLint.Config.Encode

/-!
# Reading back what was written

Main statement: `Config.decode_encode`. Presets are read back as they were written. An entry is
written as an object whose only member names its form, and no entry is read from an object with a
member of that name. So a configuration is read back, unchanged, exactly if it has no entries.
-/

namespace QueryLint

/-! ## Presets -/

theorem Json.decodeStrings_map_string (names : List String) :
    (array (names.map string)).decodeStrings = .ok names := by
  show (names.map string).mapM decodeString = .ok names
  induction names with
  | nil => rfl
  | cons name rest ih =>
      rw [List.map_cons, List.mapM_cons, ih]
      rfl

/-- Presets are read back in the form in which they were written. -/
theorem Presets.decode?_encode (presets : Presets) : decode? presets.encode = some presets := by
  cases presets with
  | single name => rfl
  | multiple names =>
      rw [encode, decode?, Json.decodeStrings_map_string]
      rfl

/-- Presets that were written are never null, so they stay apart from presets that are missing. -/
theorem Config.decodePresets?_encode (presets : Presets) :
    decodePresets? presets.encode = some (some presets) := by
  have hread := presets.decode?_encode
  cases presets <;> simp_all [decodePresets?, Presets.encode]

/-! ## Entries -/

/-- The name under which the form of an entry is written. -/
def RuleEntry.form : RuleEntry → String
  | bare _ => "Severity"
  | detailed _ _ => "Detailed"

/-- No entry is read back: the name of its form is not a member that entries are read with. -/
theorem RuleEntry.decode_encode_eq_error (entry : RuleEntry) :
    decode entry.encode = .error (.unknownField entry.form [levelMember, optionsMember]) := by
  cases entry with
  | bare level => rfl
  | detailed level options => rfl

/-- One entry that is not read back is enough for all of them not to be. -/
theorem Config.decodeRules?_encode (entry : String × RuleEntry)
    (rest : List (String × RuleEntry)) :
    decodeRules? (.object ((entry :: rest).map fun (name, entry) ↦ (name, entry.encode))) =
      none := by
  rw [List.map_cons, decodeRules?, decodeEntries?, entry.2.decode_encode_eq_error]
  rfl

/-! ## Configurations -/

namespace Config

/-- The member that presets are written as is read first and leaves the rest to be read. -/
theorem decodeMembers?_presets (presets : Presets) (rest : List (String × Json)) :
    decodeMembers? none none ((presetsMember, presets.encode) :: rest) =
      decodeMembers? (some (some presets)) none rest := by
  rw [decodeMembers?, decodePresets?_encode]
  simp

/-- The member that entries are written as is left out where there are none, and is not read where
there are some. -/
theorem decodeMembers?_rules (presets : Option (Option Presets)) (rules : Table RuleEntry) :
    decodeMembers? presets none
        (if rules.entries.isEmpty then []
        else [(rulesMember, .object (rules.entries.map fun (name, entry) ↦ (name, entry.encode)))]) =
      if rules.keys.isEmpty then some (.full presets.join rules) else none := by
  obtain ⟨entries, nodup⟩ := rules
  cases entries with
  | nil => rfl
  | cons entry rest =>
      -- The member is not that of the presets, so it is read as that of the rules.
      have hname : ¬ (rulesMember = presetsMember ∧ presets.isNone) := fun h ↦
        absurd h.1 (by decide)
      show decodeMembers? presets none [(rulesMember, _)] = none
      rw [decodeMembers?, if_neg hname, if_pos ⟨rfl, rfl⟩, decodeRules?_encode]
      rfl

/-- What is written for a configuration is read back as the same configuration if there are no
entries for rules, and is not read as any configuration if there are. -/
theorem decode_encode (config : Config) :
    decode config.encode =
      if config.entries.keys.isEmpty then .ok config else .error .noConfig := by
  cases config with
  | presets names =>
      rw [encode, decode, names.decode?_encode]
      rfl
  | full names rules =>
      have hrules := decodeMembers?_rules (names.map some) rules
      have hmembers : decodeFull? (encode (.full names rules)) =
          if rules.keys.isEmpty then some (.full names rules) else none := by
        cases names with
        | none => exact hrules
        | some given => exact (decodeMembers?_presets given _).trans hrules
      rw [decode, hmembers]
      show _ = if rules.keys.isEmpty then _ else _
      cases rules.keys.isEmpty <;> rfl

/-- A configuration that sets one rule to warnings: it can be read from a text, and what is written
for it cannot be read. -/
theorem decode_encode_lone_entry :
    let config := full none (.ofList [("no_deprecated_fields", .bare .warn)])
    decode (.object [("rules", .object [("no_deprecated_fields", .string "warn")])]) = .ok config ∧
      config.encode = .object [("rules", .object
        [("no_deprecated_fields", .object [("Severity", .string "warn")])])] ∧
      ∀ other, decode config.encode ≠ .ok other := by
  refine ⟨rfl, rfl, ?_⟩
  intro other h
  have hread : decode (encode (full none (.ofList [("no_deprecated_fields", .bare .warn)]))) =
      .error .noConfig := rfl
  rw [hread] at h
  cases h

end Config

end QueryLint
