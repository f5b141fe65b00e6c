import QueryLint.Config.Basic
import QueryLint.Config.DecodeError

/-!
# Reading configurations from JSON

A rule entry is a level, a list of a level and options, or an object with both. A configuration is a
name, a list of names, an object with presets and rules, or a list of these two.
-/

namespace QueryLint

/-! ## Required fields -/

/-- The name of the option that lists required fields. -/
def requiredFieldsOption : String := "requiredFields"

/-- A string. -/
def Json.decodeString : Json → Except DecodeError String
  | .string text => .ok text
  | other => .error (.wrongType other .string)

/-- A list of strings. -/
def Json.decodeStrings : Json → Except DecodeError (List String)
  | .array items => items.mapM Json.decodeString
  | other => .error (.wrongType other .sequence)

/-- The list of required fields in the members of an object, after the member `found`. -/
def decodeRequiredMembers (found : Option (List String)) :
    List (String × Json) → Except DecodeError (List String)
  | [] =>
    match found with
    | some names => .ok names
    | none => .error (.missingField requiredFieldsOption)
  | (name, value) :: rest =>
    if name ≠ requiredFieldsOption then .error (.unknownField name [requiredFieldsOption])
    else if found.isSome then .error (.duplicateField name)
    else do
      let names ← value.decodeStrings
      decodeRequiredMembers (some names) rest

/-- The options of the rule about required fields: an object with the list of them, or an array that
holds nothing but this list. -/
def decodeRequiredFields : Json → Except DecodeError (List String)
  | .object members => decodeRequiredMembers none members
  | .array [] => .error (.noElements .requiredFieldsElements)
  | .array (first :: rest) => do
    let names ← first.decodeStrings
    if rest.isEmpty then return names else throw (.tooManyElements (rest.length + 1))
  | other => .error (.wrongType other .requiredFields)

/-! ## Rule entries -/

/-- The level that a word means. -/
def Level.ofWord (word : String) : Except DecodeError Level :=
  match ofWord? word with
  | some level => .ok level
  | none => .error (.unknownSeverity word)

/-- A level inside an entry: its word, or an object with the word as its only member. -/
def Level.decode : Json → Except DecodeError Level
  | .string word => ofWord word
  | .object [(word, value)] => do
    let level ← ofWord word
    match value with
    | .null => return level
    | other => throw (.wrongType other .unit)
  | .object _ => .error .notSingleKey
  | other => .error (.wrongType other .stringOrMap)

namespace RuleEntry

/-- The names of the members of an entry that is an object. -/
def levelMember : String := "severity"

@[inherit_doc levelMember] def optionsMember : String := "options"

/-- The options that a member gives; null means none. -/
def optionsOf : Json → Option Json
  | .null => none
  | value => some value.normalize

/-- The entry that the members of an object give, after the level and the options found so far. -/
def decodeMembers (level : Option Level) (options : Option (Option Json)) :
    List (String × Json) → Except DecodeError RuleEntry
  | [] =>
    match level with
    | some level => .ok (.detailed level options.join)
    | none => .error (.missingField levelMember)
  | (name, value) :: rest =>
    if name = levelMember then
      if level.isSome then .error (.duplicateField name)
      else do
        let level ← Level.decode value
        decodeMembers (some level) options rest
    else if name = optionsMember then
      if options.isSome then .error (.duplicateField name)
      else decodeMembers level (some (optionsOf value)) rest
    else .error (.unknownField name [levelMember, optionsMember])

/-- An entry. In an array, options that are null are kept. -/
def decode : Json → Except DecodeError RuleEntry
  | .string word => return .bare (← Level.ofWord word)
  | .array [] => .error (.noElements .ruleEntry)
  | .array (first :: rest) => do
    let level ← Level.decode first
    match rest with
    | [] => return .detailed level none
    | [options] => return .detailed level (some options.normalize)
    | _ => throw (.tooManyElements (rest.length + 1))
  | .object members => decodeMembers none none members
  | other => .error (.wrongType other .ruleEntry)

end RuleEntry

/-! ## Configurations -/

/-- Presets: a name or a list of names. -/
def Presets.decode? : Json → Option Presets
  | .string name => some (.single name)
  | .array items => (Json.array items).decodeStrings.toOption.map .multiple
  | _ => none

namespace Config

/-- The names of the members of a configuration that is an object. -/
def presetsMember : String := "extends"

@[inherit_doc presetsMember] def rulesMember : String := "rules"

/-- Presets that may be null. -/
def decodePresets? : Json → Option (Option Presets)
  | .null => some none
  | value => (Presets.decode? value).map some

/-- The entries that the members of an object give; of several under one name, the last one counts.
-/
def decodeEntries? : List (String × Json) → Option (List (String × RuleEntry))
  | [] => some []
  | (name, value) :: rest =>
    match RuleEntry.decode value, decodeEntries? rest with
    | .ok entry, some entries => some ((name, entry) :: entries)
    | _, _ => none

/-- The entries for rules. -/
def decodeRules? : Json → Option (Table RuleEntry)
  | .object members => (decodeEntries? members).map .ofList
  | _ => none

/-- The configuration that the members of an object give, after the presets and rules found so far.
-/
def decodeMembers? (presets : Option (Option Presets)) (rules : Option (Table RuleEntry)) :
    List (String × Json) → Option Config
  | [] => some (.full presets.join (rules.getD .empty))
  | (name, value) :: rest =>
    if name = presetsMember ∧ presets.isNone then do
      let found ← decodePresets? value
      decodeMembers? (some found) rules rest
    else if name = rulesMember ∧ rules.isNone then do
      let found ← decodeRules? value
      decodeMembers? presets (some found) rest
    else none

/-- The configuration with presets and rules in an array or an object. -/
def decodeFull? : Json → Option Config
  | .object members => decodeMembers? none none members
  | .array [names] => do return .full (← decodePresets? names) .empty
  | .array [names, entries] => do return .full (← decodePresets? names) (← decodeRules? entries)
  | _ => none

/-- A configuration. A list of names is a list of presets. -/
def decode (value : Json) : Except DecodeError Config :=
  match (Presets.decode? value).map presets <|> decodeFull? value with
  | some config => .ok config
  | none => .error .noConfig

end Config

end QueryLint
