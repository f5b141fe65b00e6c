import QueryLint.Proofs.Config.Forms
import QueryLint.Proofs.Config.RoundTrip

/-!
# What is read as a configuration

Main statement: `Config.decode_eq_ok_iff`. It gives the grammar of configurations. The forms that
are meant to be written are those of `Config.Documented`: presets alone, or an object with presets
and rules, in which every level is a word. Two more are read: a level as an object with the word as
its only member, which is null, and presets with rules in an array instead of an object. So the
grammar `Config.Grammar` has two parameters, for what is a level and for whether there are arrays.

The members of an object can come in any order. That the readers of members, which go on from what
they found before, accept them in any order and only once, is told by
`RuleEntry.exists_written_of_decodeMembers` for entries and by
`Config.exists_written_of_decodeMembers?` for configurations.
-/

namespace QueryLint

/-! ## Grammar -/

/-- The word for a level. -/
def Level.IsWord (value : Json) : Prop := ∃ level : Level, value = .string level.word

/-- An object with the word for a level as its only member, which is null. -/
def Level.IsTag (value : Json) : Prop := ∃ level : Level, value = .object [(level.word, .null)]

/-- The forms of a level that are read. -/
def Level.Readable (value : Json) : Prop := IsWord value ∨ IsTag value

/-- An entry: the word for a level, or a level and possibly options in an array or an object. -/
inductive RuleEntry.Grammar (isLevel : Json → Prop) : Json → Prop
  | word (level : Level) : Grammar isLevel (.string level.word)
  | written {level value : Json} {options : Option Json} (hlevel : isLevel level)
      (hvalue : Written level options value) : Grammar isLevel value

/-- Presets: a name or a list of names. -/
inductive Presets.Grammar : Json → Prop
  | single (name : String) : Grammar (.string name)
  | multiple (names : List String) : Grammar (.array (names.map .string))

namespace Config

/-- Presets that may be null. -/
def PresetsGrammar (value : Json) : Prop := value = .null ∨ Presets.Grammar value

/-- The entries for rules: an object with an entry under each name. -/
inductive RulesGrammar (isLevel : Json → Prop) : Json → Prop
  | entries {members : List (String × Json)}
      (h : ∀ member ∈ members, RuleEntry.Grammar isLevel member.2) :
      RulesGrammar isLevel (.object members)

/-- The ways to write an object with presets or rules or both: with its members in one of their
orders. -/
inductive Written (presets rules : Option Json) : List (String × Json) → Prop
  | presetsFirst : Written presets rules
      (presets.toList.map (presetsMember, ·) ++ rules.toList.map (rulesMember, ·))
  | rulesFirst : Written presets rules
      (rules.toList.map (rulesMember, ·) ++ presets.toList.map (presetsMember, ·))

/-- A configuration: presets, or presets and rules in an object. Where there are arrays, presets,
and rules after them, can stand in an array. -/
inductive Grammar (isLevel : Json → Prop) (arrays : Bool) : Json → Prop
  | presets {value : Json} (h : Presets.Grammar value) : Grammar isLevel arrays value
  | object {presets rules : Option Json} {members : List (String × Json)}
      (hpresets : ∀ value ∈ presets, PresetsGrammar value)
      (hrules : ∀ value ∈ rules, RulesGrammar isLevel value)
      (hmembers : Written presets rules members) : Grammar isLevel arrays (.object members)
  | array {presets : Json} (rules : Option Json) (harrays : arrays = true)
      (hpresets : PresetsGrammar presets) (hrules : ∀ value ∈ rules, RulesGrammar isLevel value) :
      Grammar isLevel arrays (.array (presets :: rules.toList))

/-- The forms of a configuration that are meant to be written. -/
def Documented (value : Json) : Prop := Grammar Level.IsWord false value

/-- The forms of a configuration that are read. -/
def Readable (value : Json) : Prop := Grammar Level.Readable true value

end Config

/-! ## Levels and presets -/

theorem Level.ofWord_eq_ok_iff {word : String} {level : Level} :
    ofWord word = .ok level ↔ word = level.word := by
  constructor
  · intro h
    unfold ofWord ofWord? at h
    split at h
    · next found heq =>
        cases h
        split at heq <;> cases heq <;> rfl
    · cases h
  · rintro rfl
    cases level <;> rfl

theorem Level.exists_decode_iff {value : Json} :
    (∃ level, decode value = .ok level) ↔ Readable value := by
  constructor
  · rintro ⟨level, h⟩
    unfold decode at h
    split at h
    · next word => exact .inl ⟨level, by rw [ofWord_eq_ok_iff.mp h]⟩
    · next word content =>
        obtain ⟨found, hword, h⟩ := bind_eq_ok_iff.mp h
        split at h
        · cases h
          exact .inr ⟨level, by rw [ofWord_eq_ok_iff.mp hword]⟩
        · cases h
    · cases h
    · cases h
  · rintro (⟨level, rfl⟩ | ⟨level, rfl⟩) <;> refine ⟨level, ?_⟩ <;> cases level <;> rfl

theorem Json.decodeStrings_eq_ok_iff {value : Json} {names : List String} :
    value.decodeStrings = .ok names ↔ value = .array (names.map .string) := by
  constructor
  · intro h
    cases value with
    | array items =>
        replace h : items.mapM decodeString = .ok names := h
        congr 1
        induction items generalizing names with
        | nil =>
            cases h
            rfl
        | cons item rest ih =>
            rw [List.mapM_cons] at h
            obtain ⟨name, hname, h⟩ := bind_eq_ok_iff.mp h
            obtain ⟨others, hothers, h⟩ := bind_eq_ok_iff.mp h
            cases h
            rw [List.map_cons, ← ih hothers]
            cases item with
            | string text =>
                cases hname
                rfl
            | null | bool | number | array | object => cases hname
    | null | bool | number | string | object => cases h
  · rintro rfl
    exact decodeStrings_map_string names

theorem Presets.exists_decode?_iff {value : Json} :
    (∃ presets, decode? value = some presets) ↔ Grammar value := by
  constructor
  · rintro ⟨presets, h⟩
    cases value with
    | string name => exact .single name
    | array items =>
        obtain ⟨names, hnames, -⟩ := Option.map_eq_some_iff.mp h
        cases hread : (Json.array items).decodeStrings with
        | error cause =>
            rw [hread] at hnames
            cases hnames
        | ok found =>
            rw [Json.decodeStrings_eq_ok_iff.mp hread]
            exact .multiple found
    | null | bool | number | object => cases h
  · intro h
    cases h with
    | single name => exact ⟨.single name, rfl⟩
    | multiple names => exact ⟨.multiple names, decode?_encode (.multiple names)⟩

theorem Config.exists_decodePresets?_iff {value : Json} :
    (∃ presets, decodePresets? value = some presets) ↔ PresetsGrammar value := by
  unfold PresetsGrammar
  rw [← Presets.exists_decode?_iff]
  cases value <;> simp [decodePresets?]

/-! ## Entries -/

namespace RuleEntry

variable {members : List (String × Json)} {entry : RuleEntry}

/-- After a level and options there is nothing to read. -/
theorem eq_nil_of_decodeMembers {level : Level} {options : Option Json}
    (h : decodeMembers (some level) (some options) members = .ok entry) : members = [] := by
  cases members with
  | nil => rfl
  | cons member rest =>
      simp only [decodeMembers, Option.isSome_some, if_true] at h
      split at h
      · cases h
      · split at h <;> cases h

/-- After a level there can be options. -/
theorem eq_options_of_decodeMembers {level : Level}
    (h : decodeMembers (some level) none members = .ok entry) :
    ∃ options : Option Json, members = options.toList.map (optionsMember, ·) := by
  cases members with
  | nil => exact ⟨none, rfl⟩
  | cons member rest =>
      obtain ⟨name, value⟩ := member
      simp only [decodeMembers, Option.isSome_some, Option.isSome_none, if_true,
        Bool.false_eq_true, if_false] at h
      split at h
      · cases h
      · split at h
        · next hname =>
            rw [hname, eq_nil_of_decodeMembers h]
            exact ⟨some value, rfl⟩
        · cases h

/-- After options there must be a level. -/
theorem eq_level_of_decodeMembers {options : Option Json}
    (h : decodeMembers none (some options) members = .ok entry) :
    ∃ value, (∃ level, Level.decode value = .ok level) ∧ members = [(levelMember, value)] := by
  cases members with
  | nil => cases h
  | cons member rest =>
      obtain ⟨name, value⟩ := member
      simp only [decodeMembers, Option.isSome_some, Option.isSome_none, if_true,
        Bool.false_eq_true, if_false] at h
      split at h
      · next hname =>
          obtain ⟨level, hlevel, h⟩ := bind_eq_ok_iff.mp h
          rw [hname, eq_nil_of_decodeMembers h]
          exact ⟨value, ⟨level, hlevel⟩, rfl⟩
      · split at h <;> cases h

/-- An object that is read as an entry has a level and possibly options, in one of their orders. -/
theorem exists_written_of_decodeMembers (h : decodeMembers none none members = .ok entry) :
    ∃ level options, (∃ found, Level.decode level = .ok found) ∧
      Written level options (.object members) := by
  cases members with
  | nil => cases h
  | cons member rest =>
      obtain ⟨name, value⟩ := member
      simp only [decodeMembers, Option.isSome_none, Bool.false_eq_true, if_false] at h
      split at h
      · next hname =>
          obtain ⟨level, hlevel, h⟩ := bind_eq_ok_iff.mp h
          obtain ⟨options, rfl⟩ := eq_options_of_decodeMembers h
          exact ⟨value, options, ⟨level, hlevel⟩, hname ▸ .levelFirst⟩
      · split at h
        · next hname =>
            obtain ⟨level, hlevel, rfl⟩ := eq_level_of_decodeMembers h
            exact ⟨level, some value, hlevel, hname ▸ .levelLast⟩
        · cases h

theorem exists_written_of_decode_array {items : List Json} (h : decode (.array items) = .ok entry) :
    ∃ level options, (∃ found, Level.decode level = .ok found) ∧
      Written level options (.array items) := by
  cases items with
  | nil => cases h
  | cons first rest =>
      obtain ⟨level, hlevel, h⟩ := bind_eq_ok_iff.mp h
      match rest, h with
      | [], _ => exact ⟨first, none, ⟨level, hlevel⟩, .array⟩
      | [options], _ => exact ⟨first, some options, ⟨level, hlevel⟩, .array⟩
      | _ :: _ :: _, h => cases h

/-- What is read as an entry. -/
theorem exists_decode_iff {value : Json} :
    (∃ entry, decode value = .ok entry) ↔ Grammar Level.Readable value := by
  constructor
  · rintro ⟨entry, h⟩
    cases value with
    | string word =>
        obtain ⟨level, hlevel, -⟩ := bind_eq_ok_iff.mp h
        rw [Level.ofWord_eq_ok_iff.mp hlevel]
        exact .word level
    | array items =>
        obtain ⟨level, options, hlevel, hvalue⟩ := exists_written_of_decode_array h
        exact .written (Level.exists_decode_iff.mp hlevel) hvalue
    | object members =>
        obtain ⟨level, options, hlevel, hvalue⟩ := exists_written_of_decodeMembers h
        exact .written (Level.exists_decode_iff.mp hlevel) hvalue
    | null | bool | number => cases h
  · intro h
    cases h with
    | word level => exact ⟨.bare level, by cases level <;> rfl⟩
    | written hlevel hvalue =>
        obtain ⟨level, hlevel⟩ := Level.exists_decode_iff.mpr hlevel
        have hread := withoutNull_decode_of_written hvalue
        rw [hlevel] at hread
        cases hdecode : decode value with
        | error cause =>
            rw [hdecode] at hread
            cases hread
        | ok entry => exact ⟨entry, rfl⟩

/-- In an object the level is what stands under its name. -/
theorem Grammar.level_of_mem {isLevel : Json → Prop} (h : Grammar isLevel (.object members))
    {value : Json} (hmem : (levelMember, value) ∈ members) : isLevel value := by
  have hname : ¬ levelMember = optionsMember := by decide
  cases h with
  | @written level _ options hlevel hvalue =>
      cases hvalue <;> cases options <;> simp_all

end RuleEntry

/-! ## Configurations -/

namespace Config

theorem exists_decodeEntries?_iff {members : List (String × Json)} :
    (∃ entries, decodeEntries? members = some entries) ↔
      ∀ member ∈ members, RuleEntry.Grammar Level.Readable member.2 := by
  induction members with
  | nil => exact ⟨fun _ _ h ↦ absurd h List.not_mem_nil, fun _ ↦ ⟨[], rfl⟩⟩
  | cons member rest ih =>
      obtain ⟨name, value⟩ := member
      rw [List.forall_mem_cons, ← ih, ← RuleEntry.exists_decode_iff, decodeEntries?]
      cases RuleEntry.decode value <;> cases decodeEntries? rest <;> simp

theorem exists_decodeRules?_iff {value : Json} :
    (∃ rules, decodeRules? value = some rules) ↔ RulesGrammar Level.Readable value := by
  constructor
  · rintro ⟨rules, h⟩
    obtain ⟨members, rfl⟩ := exists_object_of_decodeRules? h
    obtain ⟨entries, hentries, -⟩ := Option.map_eq_some_iff.mp h
    exact .entries (exists_decodeEntries?_iff.mp ⟨entries, hentries⟩)
  · rintro ⟨hmembers⟩
    obtain ⟨entries, hentries⟩ := exists_decodeEntries?_iff.mpr hmembers
    exact ⟨.ofList entries, by rw [decodeRules?, hentries]; rfl⟩

variable {members : List (String × Json)} {config : Config}

/-- After presets and rules there is nothing to read. -/
theorem eq_nil_of_decodeMembers? {presets : Option Presets} {rules : Table RuleEntry}
    (h : decodeMembers? (some presets) (some rules) members = some config) : members = [] := by
  cases members with
  | nil => rfl
  | cons member rest => simp [decodeMembers?] at h

/-- After presets there can be rules. -/
theorem exists_rules_of_decodeMembers? {presets : Option Presets}
    (h : decodeMembers? (some presets) none members = some config) :
    ∃ rules : Option Json, (∀ value ∈ rules, ∃ found, decodeRules? value = some found) ∧
      members = rules.toList.map (rulesMember, ·) := by
  cases members with
  | nil => exact ⟨none, nofun, rfl⟩
  | cons member rest =>
      obtain ⟨name, value⟩ := member
      simp only [decodeMembers?, Option.isNone_some, Bool.false_eq_true, and_false, if_false] at h
      split at h
      · next hname =>
          obtain ⟨found, hfound, h⟩ := Option.bind_eq_some_iff.mp h
          rw [hname.1, eq_nil_of_decodeMembers? h]
          exact ⟨some value, fun _ hvalue ↦ Option.mem_some.mp hvalue ▸ ⟨found, hfound⟩, rfl⟩
      · cases h

/-- After rules there can be presets. -/
theorem exists_presets_of_decodeMembers? {rules : Table RuleEntry}
    (h : decodeMembers? none (some rules) members = some config) :
    ∃ presets : Option Json, (∀ value ∈ presets, ∃ found, decodePresets? value = some found) ∧
      members = presets.toList.map (presetsMember, ·) := by
  cases members with
  | nil => exact ⟨none, nofun, rfl⟩
  | cons member rest =>
      obtain ⟨name, value⟩ := member
      simp only [decodeMembers?, Option.isNone_some, Bool.false_eq_true, and_false, if_false] at h
      split at h
      · next hname =>
          obtain ⟨found, hfound, h⟩ := Option.bind_eq_some_iff.mp h
          rw [hname.1, eq_nil_of_decodeMembers? h]
          exact ⟨some value, fun _ hvalue ↦ Option.mem_some.mp hvalue ▸ ⟨found, hfound⟩, rfl⟩
      · cases h

/-- An object that is read as a configuration has presets or rules or both, in one of their orders.
-/
theorem exists_written_of_decodeMembers? (h : decodeMembers? none none members = some config) :
    ∃ presets rules : Option Json, (∀ value ∈ presets, ∃ found, decodePresets? value = some found) ∧
      (∀ value ∈ rules, ∃ found, decodeRules? value = some found) ∧
        Written presets rules members := by
  cases members with
  | nil => exact ⟨none, none, nofun, nofun, .presetsFirst⟩
  | cons member rest =>
      obtain ⟨name, value⟩ := member
      simp only [decodeMembers?, Option.isNone_none, and_true] at h
      split at h
      · next hname =>
          obtain ⟨found, hfound, h⟩ := Option.bind_eq_some_iff.mp h
          obtain ⟨rules, hrules, rfl⟩ := exists_rules_of_decodeMembers? h
          exact ⟨some value, rules, fun _ hvalue ↦ Option.mem_some.mp hvalue ▸ ⟨found, hfound⟩,
            hrules, hname ▸ .presetsFirst⟩
      · split at h
        · next hname =>
            obtain ⟨found, hfound, h⟩ := Option.bind_eq_some_iff.mp h
            obtain ⟨presets, hpresets, rfl⟩ := exists_presets_of_decodeMembers? h
            exact ⟨presets, some value, hpresets,
              fun _ hvalue ↦ Option.mem_some.mp hvalue ▸ ⟨found, hfound⟩, hname ▸ .rulesFirst⟩
        · cases h

/-- An object is read as a configuration however its members are ordered. -/
theorem exists_decodeMembers?_of_written {presets rules : Option Json}
    (hpresets : ∀ value ∈ presets, ∃ found, decodePresets? value = some found)
    (hrules : ∀ value ∈ rules, ∃ found, decodeRules? value = some found)
    (h : Written presets rules members) :
    ∃ config, decodeMembers? none none members = some config := by
  have hname : ¬ rulesMember = presetsMember := by decide
  cases presets with
  | none =>
      cases rules with
      | none => cases h <;> exact ⟨_, rfl⟩
      | some rulesValue =>
          obtain ⟨foundRules, hfoundRules⟩ := hrules rulesValue rfl
          cases h <;> simp [decodeMembers?, hname, hfoundRules]
  | some presetsValue =>
      obtain ⟨found, hfound⟩ := hpresets presetsValue rfl
      cases rules with
      | none => cases h <;> simp [decodeMembers?, hfound]
      | some rulesValue =>
          obtain ⟨foundRules, hfoundRules⟩ := hrules rulesValue rfl
          cases h <;> simp [decodeMembers?, hname, hfound, hfoundRules]

theorem readable_of_decodeFull? {value : Json} (h : decodeFull? value = some config) :
    Readable value := by
  unfold decodeFull? at h
  split at h
  · obtain ⟨presets, rules, hpresets, hrules, hmembers⟩ := exists_written_of_decodeMembers? h
    exact .object (fun value hvalue ↦ exists_decodePresets?_iff.mp (hpresets value hvalue))
      (fun value hvalue ↦ exists_decodeRules?_iff.mp (hrules value hvalue)) hmembers
  · obtain ⟨found, hfound, -⟩ := Option.bind_eq_some_iff.mp h
    exact .array none rfl (exists_decodePresets?_iff.mp ⟨found, hfound⟩) nofun
  · next names entries =>
      obtain ⟨found, hfound, h⟩ := Option.bind_eq_some_iff.mp h
      obtain ⟨rules, hrules, -⟩ := Option.bind_eq_some_iff.mp h
      have hentries := exists_decodeRules?_iff.mp ⟨rules, hrules⟩
      exact .array (some entries) rfl (exists_decodePresets?_iff.mp ⟨found, hfound⟩)
        fun _ hvalue ↦ Option.mem_some.mp hvalue ▸ hentries
  · cases h

/-- Presets and rules are read from an array. -/
theorem exists_decodeFull?_array {presets : Json} {rules : Option Json}
    (hpresets : PresetsGrammar presets)
    (hrules : ∀ value ∈ rules, RulesGrammar Level.Readable value) :
    ∃ config, decodeFull? (.array (presets :: rules.toList)) = some config := by
  obtain ⟨found, hfound⟩ := exists_decodePresets?_iff.mpr hpresets
  cases rules with
  | none => simp [decodeFull?, hfound]
  | some value =>
      obtain ⟨foundRules, hfoundRules⟩ := exists_decodeRules?_iff.mpr (hrules value rfl)
      simp [decodeFull?, hfound, hfoundRules]

theorem exists_decode_iff {value : Json} :
    (∃ config, decode value = .ok config) ↔
      (∃ presets, Presets.decode? value = some presets) ∨
        ∃ config, decodeFull? value = some config := by
  unfold decode
  cases Presets.decode? value <;> cases decodeFull? value <;> simp

/-- In an object the rules are what stands under their name. -/
theorem Written.rules_of_mem {presets rules : Option Json} (h : Written presets rules members)
    {value : Json} (hmem : (rulesMember, value) ∈ members) : value ∈ rules := by
  have hname : ¬ rulesMember = presetsMember := by decide
  cases h <;> cases presets <;> cases rules <;> simp_all

/-- An array that is meant to be written holds the names of presets. -/
theorem Documented.presets_of_array {items : List Json} (h : Documented (.array items)) :
    Presets.Grammar (.array items) := by
  cases h with
  | presets h => exact h
  | array rules harrays => cases harrays

theorem Documented.rules_of_mem (h : Documented (.object members)) {value : Json}
    (hmem : (rulesMember, value) ∈ members) : RulesGrammar Level.IsWord value := by
  cases h with
  | presets h => cases h
  | object _ hrules hmembers => exact hrules value (hmembers.rules_of_mem hmem)

/-- What is meant to be written is read. -/
theorem readable_of_documented {value : Json} (h : Documented value) : Readable value := by
  have hlevel {level : Json} (h : Level.IsWord level) : Level.Readable level := .inl h
  have hentry {entry : Json} (h : RuleEntry.Grammar Level.IsWord entry) :
      RuleEntry.Grammar Level.Readable entry := by
    cases h with
    | word level => exact .word level
    | written h hvalue => exact .written (hlevel h) hvalue
  have hentries {rules : Json} (h : RulesGrammar Level.IsWord rules) :
      RulesGrammar Level.Readable rules := by
    cases h with
    | entries h => exact .entries fun member hmember ↦ hentry (h member hmember)
  cases h with
  | presets h => exact .presets h
  | object hpresets hrules hmembers =>
      exact .object hpresets (fun value hvalue ↦ hentries (hrules value hvalue)) hmembers
  | array rules harrays => cases harrays

/-- A value is read as a configuration exactly if it has one of the forms that are read, and is
refused otherwise, always in the same words. The forms that are meant to be written are among these.
-/
theorem decode_eq_ok_iff (value : Json) :
    ((∃ config, decode value = .ok config) ↔ Readable value) ∧
      (decode value = .error .noConfig ↔ ¬ Readable value) ∧
        (Documented value → Readable value) := by
  have hread : (∃ config, decode value = .ok config) ↔ Readable value := by
    rw [exists_decode_iff]
    constructor
    · rintro (hpresets | ⟨config, hfull⟩)
      · exact .presets (Presets.exists_decode?_iff.mp hpresets)
      · exact readable_of_decodeFull? hfull
    · intro h
      cases h with
      | presets h => exact .inl (Presets.exists_decode?_iff.mpr h)
      | object hpresets hrules hmembers =>
          refine .inr (exists_decodeMembers?_of_written ?_ ?_ hmembers)
          · exact fun value hvalue ↦ exists_decodePresets?_iff.mpr (hpresets value hvalue)
          · exact fun value hvalue ↦ exists_decodeRules?_iff.mpr (hrules value hvalue)
      | array rules _ hpresets hrules => exact .inr (exists_decodeFull?_array hpresets hrules)
  refine ⟨hread, ?_, readable_of_documented⟩
  rw [← hread]
  unfold decode
  cases (Presets.decode? value).map presets <|> decodeFull? value <;> simp

/-- Presets and rules in an array, and a level in an object: both are read, and neither is meant to
be written. -/
theorem decode_undocumented :
    let array : Json :=
      .array [.string "recommended", .object [("no_deprecated_fields", .string "off")]]
    let tagged : Json := .object [("rules", .object
      [("no_deprecated_fields", .object [("severity", .object [("warn", .null)])])])]
    ((∃ config, decode array = .ok config ∧ config.level? "no_deprecated_fields" = some .off) ∧
        ¬ Documented array) ∧
      (∃ config, decode tagged = .ok config ∧ config.level? "no_deprecated_fields" = some .warn) ∧
        ¬ Documented tagged := by
  refine ⟨⟨⟨_, rfl, rfl⟩, fun h ↦ ?_⟩, ⟨_, rfl, rfl⟩, fun h ↦ ?_⟩
  · obtain ⟨presets, hpresets⟩ := Presets.exists_decode?_iff.mpr h.presets_of_array
    cases hpresets
  · cases h.rules_of_mem (List.mem_singleton_self _) with
    | entries hentries =>
        have hentry := hentries _ (List.mem_singleton_self _)
        obtain ⟨level, hlevel⟩ := hentry.level_of_mem (List.mem_singleton_self _)
        cases hlevel

end Config

end QueryLint
