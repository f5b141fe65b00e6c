import QueryLint.Proofs.Config.Enabled
import QueryLint.Proofs.Table

/-!
# Arrays and objects as entries

Main statement: `Config.decode_swapped`. A level and options can be written as an array or as an
object. Both are read as the same entry unless the options are null: an array gives them as options,
an object gives none. So an entry can be written the other way in any configuration, and what comes
of it is the same up to options that are null in one and missing in the other.

The entries of a configuration are read by themselves (`Config.decode_fill`), so it is enough to
compare single entries (`RuleEntry.decode_of_written`).
-/

namespace QueryLint

/-! ## Options that are null -/

/-- Options that are null are none. -/
def Json.unlessNull : Option Json → Option Json
  | some null => none
  | options => options

/-- The entry without options if they are null. -/
def RuleEntry.withoutNull : RuleEntry → RuleEntry
  | bare level => bare level
  | detailed level options => detailed level (Json.unlessNull options)

/-- That options are missing, in place of that they are null. -/
def ConfigError.withoutNull : ConfigError → ConfigError
  | invalidOptions rule (.wrongType .null .requiredFields) => missingOptions rule
  | error => error

/-- The configuration with every entry changed. -/
def Config.mapEntries (change : RuleEntry → RuleEntry) : Config → Config
  | presets names => presets names
  | full names rules => full names (rules.map change)

/-- The configuration without options that are null. -/
def Config.withoutNulls (config : Config) : Config :=
  config.mapEntries RuleEntry.withoutNull

@[simp] theorem RuleEntry.level_withoutNull (entry : RuleEntry) :
    entry.withoutNull.level = entry.level := by
  cases entry <;> rfl

@[simp] theorem RuleEntry.options?_withoutNull (entry : RuleEntry) :
    entry.withoutNull.options? = Json.unlessNull entry.options? := by
  cases entry <;> rfl

@[simp] theorem Json.unlessNull_unlessNull (options : Option Json) :
    unlessNull (unlessNull options) = unlessNull options := by
  cases options with
  | none => rfl
  | some value => cases value <;> rfl

theorem Json.unlessNull_eq_self_iff {options : Option Json} :
    unlessNull options = options ↔ options ≠ some null := by
  cases options with
  | none => simp [unlessNull]
  | some value => cases value <;> simp [unlessNull]

theorem Json.map_normalize_eq_some_null_iff {options : Option Json} :
    options.map normalize = some null ↔ options = some null := by
  cases options with
  | none => simp
  | some value => cases value <;> simp [normalize]

/-- An object gives the options that an array gives, unless they are null. -/
theorem RuleEntry.bind_optionsOf (options : Option Json) :
    options.bind optionsOf = Json.unlessNull (options.map Json.normalize) := by
  cases options with
  | none => rfl
  | some value => cases value <;> rfl

/-! ## Single entries -/

namespace RuleEntry

/-- The ways to write an entry with a level and possibly options: as an array, or as an object with
its members in one of their orders. -/
inductive Written (level : Json) (options : Option Json) : Json → Prop
  | array : Written level options (.array (level :: options.toList))
  | levelFirst : Written level options
      (.object ((levelMember, level) :: options.toList.map (optionsMember, ·)))
  | levelLast : Written level options
      (.object (options.toList.map (optionsMember, ·) ++ [(levelMember, level)]))

theorem decode_array (level : Json) (options : Option Json) :
    decode (.array (level :: options.toList)) =
      (Level.decode level).map (detailed · (options.map Json.normalize)) := by
  cases options <;> cases hlevel : Level.decode level <;>
    simp [decode, hlevel, bind, Except.bind, pure, Except.pure, Except.map]

variable {level value : Json} {options : Option Json}

/-- As an object, an entry has no options if they are null. -/
theorem decode_object_of_written {members : List (String × Json)}
    (h : Written level options (.object members)) :
    decode (.object members) =
      (Level.decode level).map (detailed · (Json.unlessNull (options.map Json.normalize))) := by
  have hname : ¬ optionsMember = levelMember := by decide
  rw [← bind_optionsOf]
  cases h with
  | levelFirst | levelLast =>
      cases options <;> cases hlevel : Level.decode level <;>
        simp [decode, decodeMembers, hlevel, hname, bind, Except.bind, Except.map]

/-- However an entry is written, it is read as the same up to options that are null. -/
theorem withoutNull_decode_of_written (h : Written level options value) :
    (decode value).map withoutNull =
      (Level.decode level).map (detailed · (Json.unlessNull (options.map Json.normalize))) := by
  have hread : ∃ found, decode value = (Level.decode level).map (detailed · found) ∧
      Json.unlessNull found = Json.unlessNull (options.map Json.normalize) := by
    cases h with
    | array => exact ⟨_, decode_array level options, rfl⟩
    | levelFirst => exact ⟨_, decode_object_of_written .levelFirst, Json.unlessNull_unlessNull _⟩
    | levelLast => exact ⟨_, decode_object_of_written .levelLast, Json.unlessNull_unlessNull _⟩
  obtain ⟨found, hfound, hnull⟩ := hread
  rw [hfound, ← hnull]
  cases Level.decode level <;> rfl

/-- However an entry is written, it is read as the same if its options are not null. -/
theorem decode_of_written (h : Written level options value) (hoptions : options ≠ some .null) :
    decode value = (Level.decode level).map (detailed · (options.map Json.normalize)) := by
  have hsame : Json.unlessNull (options.map Json.normalize) = options.map Json.normalize :=
    Json.unlessNull_eq_self_iff.mpr (mt Json.map_normalize_eq_some_null_iff.mp hoptions)
  cases h with
  | array => exact decode_array level options
  | levelFirst => rw [decode_object_of_written .levelFirst, hsame]
  | levelLast => rw [decode_object_of_written .levelLast, hsame]

/-- One value, or two ways to write an entry with good options. -/
def Reworded (good : Option Json → Prop) (value other : Json) : Prop :=
  value = other ∨
    ∃ level options, good options ∧ Written level options value ∧ Written level options other

theorem decode_of_reworded {other : Json} (h : Reworded (· ≠ some .null) value other) :
    decode value = decode other := by
  rcases h with rfl | ⟨level, options, hoptions, hvalue, hother⟩
  · rfl
  · rw [decode_of_written hvalue hoptions, decode_of_written hother hoptions]

theorem withoutNull_decode_of_reworded {good : Option Json → Prop} {other : Json}
    (h : Reworded good value other) :
    (decode value).map withoutNull = (decode other).map withoutNull := by
  rcases h with rfl | ⟨level, options, -, hvalue, hother⟩
  · rfl
  · rw [withoutNull_decode_of_written hvalue, withoutNull_decode_of_written hother]

end RuleEntry

/-! ## Entries in a configuration -/

namespace Config

/-- What stands around the entries of a configuration: other members of an object, or presets before
them in an array. They stand nowhere else (`exists_fill_of_decode`). -/
inductive Frame where
  | object (before after : List (String × Json))
  | array (names : Json)

/-- The configuration with these entries. -/
def Frame.fill : Frame → List (String × Json) → Json
  | object before after, members =>
    .object (before ++ (rulesMember, .object members) :: after)
  | array names, members => .array [names, .object members]

/-- The configuration with other entries. -/
def withRules (rules : Table RuleEntry) : Config → Config
  | presets names => presets names
  | full names _ => full names rules

/-- After the entries, the members of a configuration do not depend on them. -/
theorem decodeMembers?_some_rules (presets : Option (Option Presets))
    (rules other : Table RuleEntry) (members : List (String × Json)) :
    decodeMembers? presets (some rules) members =
      (decodeMembers? presets (some other) members).map (withRules rules) := by
  induction members generalizing presets with
  | nil => rfl
  | cons member rest ih =>
      obtain ⟨name, value⟩ := member
      simp only [decodeMembers?, Option.isNone_some, Bool.false_eq_true, and_false, if_false]
      split
      · cases decodePresets? value with
        | none => rfl
        | some found => exact ih (some found)
      · rfl

/-- The entries among the members of a configuration are read by themselves. -/
theorem decodeMembers?_rulesMember (presets : Option (Option Presets))
    (rules : Option (Table RuleEntry)) (before after : List (String × Json)) (value : Json) :
    decodeMembers? presets rules (before ++ (rulesMember, value) :: after) =
      (decodeRules? value).bind fun found ↦
        (decodeMembers? presets rules (before ++ (rulesMember, .object []) :: after)).map
          (withRules found) := by
  induction before generalizing presets rules with
  | nil =>
      have hname : ¬ (rulesMember = presetsMember ∧ presets.isNone) := fun h ↦
        absurd h.1 (by decide)
      -- Entries that were read before leave no room for others, whatever these are.
      simp only [List.nil_append, decodeMembers?, if_neg hname, true_and]
      cases rules with
      | some rules => cases decodeRules? value <;> rfl
      | none =>
          cases decodeRules? value with
          | none => rfl
          | some found => exact decodeMembers?_some_rules presets found .empty after
  | cons member rest ih =>
      obtain ⟨name, other⟩ := member
      simp only [List.cons_append, decodeMembers?]
      split
      · cases decodePresets? other with
        | none => cases decodeRules? value <;> rfl
        | some found => exact ih (some found) rules
      · split
        · cases decodeRules? other with
          | none => cases decodeRules? value <;> rfl
          | some found => exact ih presets (some found)
        · cases decodeRules? value <;> rfl

theorem decode_object (members : List (String × Json)) :
    decode (.object members) =
      (decodeMembers? none none members).elim (.error .noConfig) .ok := by
  have hnames : Presets.decode? (.object members) = none := rfl
  rw [decode, hnames, decodeFull?]
  cases decodeMembers? none none members <;> rfl

/-- An array that ends with an object is no list of names. -/
theorem decode_array_object (names : Json) (members : List (String × Json)) :
    decode (.array [names, .object members]) =
      ((decodePresets? names).bind fun given ↦
        (decodeRules? (.object members)).map (full given)).elim (.error .noConfig) .ok := by
  have hnames : Presets.decode? (.array [names, .object members]) = none := by
    simp only [Presets.decode?, Json.decodeStrings, List.mapM_cons]
    cases names.decodeString <;> rfl
  rw [decode, hnames]
  cases hgiven : decodePresets? names with
  | none => simp [decodeFull?, hgiven]
  | some given =>
      cases hrules : decodeRules? (.object members) <;> simp [decodeFull?, hgiven, hrules]

/-- The entries of a configuration are read by themselves. -/
theorem decode_fill (frame : Frame) (members : List (String × Json)) :
    decode (frame.fill members) =
      (decodeRules? (.object members)).elim (.error .noConfig) fun rules ↦
        (decode (frame.fill [])).map (withRules rules) := by
  cases frame with
  | object before after =>
      simp only [Frame.fill, decode_object]
      rw [decodeMembers?_rulesMember]
      cases decodeRules? (.object members) with
      | none => rfl
      | some rules =>
          cases decodeMembers? none none (before ++ (rulesMember, .object []) :: after) <;> rfl
  | array names =>
      simp only [Frame.fill, decode_array_object]
      cases decodePresets? names <;> cases decodeRules? (.object members) <;> rfl

theorem exists_object_of_decodeRules? {value : Json} {rules : Table RuleEntry}
    (h : decodeRules? value = some rules) : ∃ members, value = .object members := by
  cases value with
  | object members => exact ⟨members, rfl⟩
  | null | bool | number | string | array => cases h

/-- Entries are read from a member that is an object, unless they were read before. -/
theorem exists_member_of_decodeMembers? {presets : Option (Option Presets)}
    {rules : Option (Table RuleEntry)} {members : List (String × Json)} {config : Config}
    (h : decodeMembers? presets rules members = some config) :
    config.entries = rules.getD .empty ∨
      ∃ before after found, members = before ++ (rulesMember, .object found) :: after := by
  induction members generalizing presets rules with
  | nil =>
      cases h
      exact .inl rfl
  | cons member rest ih =>
      obtain ⟨name, value⟩ := member
      simp only [decodeMembers?] at h
      split at h
      · obtain ⟨names, -, hrest⟩ := Option.bind_eq_some_iff.mp h
        rcases ih hrest with hentries | ⟨before, after, found, rfl⟩
        · exact .inl hentries
        · exact .inr ⟨(name, value) :: before, after, found, rfl⟩
      · split at h
        · next hname =>
            obtain ⟨entries, hread, -⟩ := Option.bind_eq_some_iff.mp h
            obtain ⟨found, rfl⟩ := exists_object_of_decodeRules? hread
            exact .inr ⟨[], rest, found, by rw [hname.1, List.nil_append]⟩
        · cases h

/-- A configuration that has entries has them in a frame. -/
theorem exists_fill_of_decode {value : Json} {config : Config} (h : decode value = .ok config)
    (hentries : config.entries ≠ .empty) :
    ∃ (frame : Frame) (members : List (String × Json)), value = frame.fill members := by
  have hfull : decodeFull? value = some config := by
    unfold decode at h
    cases hnames : Presets.decode? value with
    | some names =>
        rw [hnames] at h
        cases h
        exact absurd rfl hentries
    | none =>
        rw [hnames] at h
        cases hfull : decodeFull? value with
        | none =>
            rw [hfull] at h
            cases h
        | some found =>
            rw [hfull] at h
            cases h
            rfl
  cases value with
  | object members =>
      rcases exists_member_of_decodeMembers? hfull with hnone | ⟨before, after, found, rfl⟩
      · exact absurd hnone hentries
      · exact ⟨.object before after, found, rfl⟩
  | array items =>
      unfold decodeFull? at hfull
      split at hfull
      · next heq => cases heq
      · obtain ⟨names, -, hpresets⟩ := Option.bind_eq_some_iff.mp hfull
        cases hpresets
        exact absurd rfl hentries
      · next names rules heq =>
          obtain ⟨_, -, hrules⟩ := Option.bind_eq_some_iff.mp hfull
          obtain ⟨_, hread, -⟩ := Option.bind_eq_some_iff.mp hrules
          obtain ⟨members, rfl⟩ := exists_object_of_decodeRules? hread
          exact ⟨.array names, members, heq⟩
      · cases hfull
  | null | bool | number | string => cases hfull

/-- Entries are read one by one, also if each is changed. -/
theorem map_decodeEntries?_cons (change : RuleEntry → RuleEntry) (name : String) (value : Json)
    (rest : List (String × Json)) :
    (decodeEntries? ((name, value) :: rest)).map (List.map (Prod.map id change)) =
      ((RuleEntry.decode value).map change).toOption.bind fun entry ↦
        ((decodeEntries? rest).map (List.map (Prod.map id change))).map ((name, entry) :: ·) := by
  rw [decodeEntries?]
  cases RuleEntry.decode value <;> cases decodeEntries? rest <;> rfl

/-- Members that are read as the same entries, up to a change, are read as the same table. -/
theorem map_decodeRules? {change : RuleEntry → RuleEntry} {members others : List (String × Json)}
    (h : List.Forall₂ (fun member other ↦ member.1 = other.1 ∧
      (RuleEntry.decode member.2).map change = (RuleEntry.decode other.2).map change)
      members others) :
    (decodeRules? (.object members)).map (Table.map change) =
      (decodeRules? (.object others)).map (Table.map change) := by
  have hentries : (decodeEntries? members).map (List.map (Prod.map id change)) =
      (decodeEntries? others).map (List.map (Prod.map id change)) := by
    induction h with
    | nil => rfl
    | @cons member other _ _ hmember _ ih =>
        obtain ⟨hname, hdecode⟩ := hmember
        rw [map_decodeEntries?_cons, map_decodeEntries?_cons, hname, hdecode, ih]
  have htable : ∀ entries : List (String × RuleEntry), (Table.ofList entries).map change =
      .ofList (entries.map (Prod.map id change)) := fun entries ↦
    Table.map_insertAll change .empty entries
  have hread : ∀ members, (decodeRules? (.object members)).map (Table.map change) =
      ((decodeEntries? members).map (List.map (Prod.map id change))).map .ofList := fun members ↦ by
    simp only [decodeRules?, Option.map_map, Function.comp_def, htable]
  rw [hread, hread, hentries]

theorem mapEntries_withRules (change : RuleEntry → RuleEntry) (config : Config)
    (rules : Table RuleEntry) :
    (config.withRules rules).mapEntries change =
      (config.mapEntries change).withRules (rules.map change) := by
  cases config <;> rfl

@[simp] theorem mapEntries_id : mapEntries id = id := by
  funext config
  cases config <;> simp [mapEntries]

/-- Configurations with members that are read as the same entries, up to a change, are read as the
same configuration. -/
theorem map_decode_fill (change : RuleEntry → RuleEntry) (frame : Frame)
    {members others : List (String × Json)}
    (h : List.Forall₂ (fun member other ↦ member.1 = other.1 ∧
      (RuleEntry.decode member.2).map change = (RuleEntry.decode other.2).map change)
      members others) :
    (decode (frame.fill members)).map (mapEntries change) =
      (decode (frame.fill others)).map (mapEntries change) := by
  have hrules := map_decodeRules? h
  have hread : ∀ members, (decode (frame.fill members)).map (mapEntries change) =
      ((decodeRules? (.object members)).map (Table.map change)).elim (.error .noConfig) fun rules ↦
        (decode (frame.fill [])).map fun config ↦ (config.mapEntries change).withRules rules := by
    intro members
    rw [decode_fill]
    cases decodeRules? (.object members) with
    | none => rfl
    | some rules =>
        cases decode (frame.fill []) with
        | error cause => rfl
        | ok config => exact congrArg Except.ok (mapEntries_withRules change config rules)
  rw [hread, hread, hrules]

/-! ## Linters -/

theorem level?_withoutNulls (config : Config) (rule : String) :
    config.withoutNulls.level? rule = config.level? rule := by
  cases config with
  | presets names => rfl
  | full names rules =>
      simp [withoutNulls, mapEntries, level?, entries, presets?, Function.comp_def]

theorem options?_withoutNulls (config : Config) (rule : String) :
    config.withoutNulls.options? rule = Json.unlessNull (config.options? rule) := by
  cases config with
  | presets names => rfl
  | full names rules =>
      simp only [withoutNulls, mapEntries, options?, entries, Table.get?_map]
      cases rules.get? rule <;> simp [Json.unlessNull]

theorem validate_withoutNulls (config : Config) :
    config.withoutNulls.validate = config.validate := by
  cases config with
  | presets names => rfl
  | full names rules => simp [withoutNulls, mapEntries, validate, unknownRules, entries, presets?]

/-- A configuration that is not valid does not fail for its options. -/
theorem mapError_validate (config : Config) :
    config.validate.mapError ConfigError.withoutNull = config.validate := by
  have hpresets : ∀ names : Presets, names.validate.mapError ConfigError.withoutNull =
      names.validate := by
    intro names
    unfold Presets.validate
    split <;> rfl
  unfold validate
  cases config.presets? with
  | none => cases config.unknownRules.isEmpty <;> rfl
  | some names =>
      simp only [mapError_bind, hpresets]
      cases config.unknownRules.isEmpty <;> rfl

end Config

/-! ## Options that are refused -/

/-- A list is not refused as if it stood for all options. -/
theorem Json.decodeStrings_ne (value found : Json) :
    value.decodeStrings ≠ .error (.wrongType found .requiredFields) := by
  cases value with
  | array items =>
      show items.mapM decodeString ≠ _
      induction items with
      | nil => simp [pure, Except.pure]
      | cons item rest ih =>
          rw [List.mapM_cons]
          cases item with
          | string text =>
              cases hrest : rest.mapM decodeString with
              | error cause =>
                  rw [hrest] at ih
                  exact ih
              | ok names => simp [decodeString, bind, Except.bind, pure, Except.pure]
          | null | bool | number | array | object => simp [decodeString, bind, Except.bind]
  | null | bool | number | string | object => simp [decodeStrings]

theorem decodeRequiredMembers_ne (names : Option (List String)) (members : List (String × Json))
    (found : Json) :
    decodeRequiredMembers names members ≠ .error (.wrongType found .requiredFields) := by
  induction members generalizing names with
  | nil => cases names <;> simp [decodeRequiredMembers]
  | cons member rest ih =>
      obtain ⟨name, value⟩ := member
      have hvalue := value.decodeStrings_ne found
      unfold decodeRequiredMembers
      split
      · simp
      · split
        · simp
        · cases hread : value.decodeStrings with
          | error cause =>
              rw [hread] at hvalue
              exact hvalue
          | ok names => exact ih (some names)

/-- Only null is refused because it is null. -/
theorem decodeRequiredFields_eq_error_iff (value : Json) :
    decodeRequiredFields value = .error (.wrongType .null .requiredFields) ↔ value = .null := by
  cases value with
  | array items =>
      cases items with
      | nil => simp [decodeRequiredFields]
      | cons first rest =>
          have hfirst := first.decodeStrings_ne .null
          simp only [decodeRequiredFields, reduceCtorEq, iff_false]
          cases hread : first.decodeStrings with
          | error cause =>
              rw [hread] at hfirst
              exact hfirst
          | ok names => cases rest <;> exact fun h ↦ nomatch h
  | object members => simp [decodeRequiredFields, decodeRequiredMembers_ne]
  | null | bool | number | string => simp [decodeRequiredFields]

namespace Config

theorem requiredFieldsWith_unlessNull (options : Option Json) :
    Catalogue.requiredFieldsWith (Json.unlessNull options) =
      (Catalogue.requiredFieldsWith options).mapError ConfigError.withoutNull := by
  cases options with
  | none => rfl
  | some value =>
      by_cases hnull : value = .null
      · subst hnull
        rfl
      · rw [Json.unlessNull_eq_self_iff.mpr fun h ↦ hnull (Option.some.inj h)]
        have hrefused := mt (decodeRequiredFields_eq_error_iff value).mp hnull
        cases hread : decodeRequiredFields value with
        | ok required => simp [Catalogue.requiredFieldsWith, hread, Except.mapError]
        | error cause =>
            -- The error is not that of null, so it stays as it is.
            have hcause : cause ≠ .wrongType .null .requiredFields := fun h ↦
              hrefused (hread.trans (congrArg Except.error h))
            simp only [Catalogue.requiredFieldsWith, hread, Except.mapError]
            unfold ConfigError.withoutNull
            split
            · next h =>
                cases h
                exact absurd rfl hcause
            · rfl

theorem configure_unlessNull (rule : Rule) (options : Option Json) :
    Catalogue.configure rule (Json.unlessNull options) =
      (Catalogue.configure rule options).mapError ConfigError.withoutNull := by
  unfold Catalogue.configure
  split
  · exact requiredFieldsWith_unlessNull options
  · rfl

theorem enable_withoutNulls (config : Config) (linter : Linter) (rule : Rule) :
    config.withoutNulls.enable linter rule =
      (config.enable linter rule).mapError ConfigError.withoutNull := by
  unfold enable
  rw [level?_withoutNulls, options?_withoutNulls, configure_unlessNull]
  cases (config.level? rule.name).bind Level.severity? with
  | none => rfl
  | some severity => cases Catalogue.configure rule (config.options? rule.name) <;> rfl

/-- Without options that are null there is the same linter, or the error that options are missing in
place of the error that they are null. -/
theorem linter_withoutNulls (config : Config) :
    config.withoutNulls.linter = config.linter.mapError ConfigError.withoutNull := by
  unfold linter
  have hstep : config.withoutNulls.enable = fun linter rule ↦
      (config.enable linter rule).mapError ConfigError.withoutNull := by
    funext linter rule
    exact enable_withoutNulls config linter rule
  rw [validate_withoutNulls, hstep, foldlM_mapError, mapError_bind, mapError_validate]

/-! ## Entries written another way -/

/-- Two configurations as JSON with entries for the same rules, some of them written another way.
Only entries with good options are. -/
inductive Swapped (good : Option Json → Prop) : Json → Json → Prop
  | entries (frame : Frame) {members others : List (String × Json)}
      (h : List.Forall₂ (fun member other ↦ member.1 = other.1 ∧
        RuleEntry.Reworded good member.2 other.2) members others) :
      Swapped good (frame.fill members) (frame.fill others)

/-- Two configurations say the same about every rule and give the same linter, up to options that
are null in one and missing in the other. -/
structure SameUpToNull (config other : Config) : Prop where
  level : ∀ rule, config.level? rule = other.level? rule
  options : ∀ rule,
    Json.unlessNull (config.options? rule) = Json.unlessNull (other.options? rule)
  linter : config.linter.mapError ConfigError.withoutNull =
    other.linter.mapError ConfigError.withoutNull

theorem sameUpToNull_of_eq {config other : Config} (h : config.withoutNulls = other.withoutNulls) :
    config.SameUpToNull other where
  level := fun rule ↦ by rw [← level?_withoutNulls, h, level?_withoutNulls]
  options := fun rule ↦ by rw [← options?_withoutNulls, h, options?_withoutNulls]
  linter := by rw [← linter_withoutNulls, h, linter_withoutNulls]

variable {value other : Json}

/-- Entries can be written another way with no change but in options that are null. -/
theorem withoutNulls_decode_of_swapped {good : Option Json → Prop} (h : Swapped good value other) :
    (decode value).map withoutNulls = (decode other).map withoutNulls := by
  obtain ⟨frame, hentries⟩ := h
  exact map_decode_fill RuleEntry.withoutNull frame (hentries.imp fun _ _ hentry ↦
    ⟨hentry.1, RuleEntry.withoutNull_decode_of_reworded hentry.2⟩)

/-- Entries whose options are not null can be written another way with no change. -/
theorem decode_eq_of_swapped (h : Swapped (· ≠ some .null) value other) :
    decode value = decode other := by
  obtain ⟨frame, hentries⟩ := h
  have hsame := map_decode_fill id frame (hentries.imp fun _ _ hentry ↦
    ⟨hentry.1, congrArg (Except.map id) (RuleEntry.decode_of_reworded hentry.2)⟩)
  rw [mapEntries_id, Except.map_id] at hsame
  exact hsame

/-- The two forms of an entry agree exactly if there are no options that are null. As an array, an
entry has its options; as an object, it has the same, but none if they are null. In a configuration,
entries whose options are not null can be written another way with no change at all. If some are
null, the configuration fails with the same error or says the same up to options that are null, and
so does the linter. -/
theorem decode_swapped (level : Level) (options : Option Json) (value other : Json) :
    (∀ members, RuleEntry.Written (.string level.word) options (.object members) →
      ∃ entry, RuleEntry.decode (.array (.string level.word :: options.toList)) = .ok entry ∧
        entry.level = level ∧ entry.options? = options.map Json.normalize ∧
          RuleEntry.decode (.object members) = .ok entry.withoutNull ∧
            (entry.withoutNull = entry ↔ options ≠ some .null)) ∧
      (Swapped (· ≠ some .null) value other → decode value = decode other) ∧
        (Swapped (fun _ ↦ True) value other →
          (∃ error, decode value = .error error ∧ decode other = .error error) ∨
            ∃ config changed, decode value = .ok config ∧ decode other = .ok changed ∧
              config.SameUpToNull changed) := by
  refine ⟨?_, decode_eq_of_swapped, ?_⟩
  · intro members hmembers
    have hlevel : Level.decode (.string level.word) = .ok level := by cases level <;> rfl
    have harray := RuleEntry.decode_array (.string level.word) options
    have hobject := RuleEntry.decode_object_of_written hmembers
    rw [hlevel] at harray hobject
    refine ⟨.detailed level (options.map Json.normalize), harray, rfl, rfl, hobject, ?_⟩
    rw [RuleEntry.withoutNull, RuleEntry.detailed.injEq, Json.unlessNull_eq_self_iff, ne_eq,
      Json.map_normalize_eq_some_null_iff]
    simp
  · intro hswapped
    have hsame := withoutNulls_decode_of_swapped hswapped
    cases hvalue : decode value <;> cases hother : decode other <;> rw [hvalue, hother] at hsame
    · next error cause =>
        cases hsame
        exact .inl ⟨error, rfl, rfl⟩
    · cases hsame
    · cases hsame
    · next config changed =>
        exact .inr ⟨config, changed, rfl, rfl, sameUpToNull_of_eq (Except.ok.inj hsame)⟩

/-- Two entries that are arrays, written as objects: the configuration stays the same. -/
theorem decode_swapped_arrays :
    let options : Json := .object [("requiredFields", .array [.string "id"])]
    let arrays : Json := .object [("extends", .string "recommended"), ("rules", .object
      [("required_fields", .array [.string "warn", options]),
        ("no_deprecated_fields", .array [.string "off"])])]
    let objects : Json := .object [("extends", .string "recommended"), ("rules", .object
      [("required_fields", .object [("options", options), ("severity", .string "warn")]),
        ("no_deprecated_fields", .object [("severity", .string "off")])])]
    ∃ config, decode arrays = .ok config ∧ decode objects = .ok config ∧
      config.level? "no_deprecated_fields" = some .off ∧
        config.options? "required_fields" = some options := by
  intro options arrays objects
  have hrequired : RuleEntry.Reworded (· ≠ some .null) (.array [.string "warn", options])
      (.object [("options", options), ("severity", .string "warn")]) :=
    .inr ⟨.string "warn", some options, by simp [options], .array, .levelLast⟩
  have hdeprecated : RuleEntry.Reworded (· ≠ some .null) (.array [.string "off"])
      (.object [("severity", .string "off")]) :=
    .inr ⟨.string "off", none, nofun, .array, .levelFirst⟩
  have hswapped : Swapped (· ≠ some .null) arrays objects :=
    .entries (.object [("extends", .string "recommended")] [])
      (.cons ⟨rfl, hrequired⟩ (.cons ⟨rfl, hdeprecated⟩ .nil))
  have hsame : decode arrays = decode objects :=
    (decode_swapped .warn (some options) arrays objects).2.1 hswapped
  exact ⟨_, rfl, hsame.symm, rfl, rfl⟩

/-- Options that are null: written as an array, the entry of the rule that needs options has some,
and they are invalid; written as an object, it has none, and they are missing. -/
theorem decode_swapped_null :
    let array : Json := .array [.string "error", .null]
    let object : Json := .object [("severity", .string "error"), ("options", .null)]
    let configuration (entry : Json) : Json :=
      .object [("rules", .object [("required_fields", entry)])]
    RuleEntry.decode array = .ok (.detailed .error (some .null)) ∧
      RuleEntry.decode object = .ok (.detailed .error none) ∧
        ∃ config changed, decode (configuration array) = .ok config ∧
          decode (configuration object) = .ok changed ∧
            config.options? "required_fields" ≠ changed.options? "required_fields" ∧
              config.linter = .error (.invalidOptions "required_fields"
                (.wrongType .null .requiredFields)) ∧
                changed.linter = .error (.missingOptions "required_fields") := by
  intro array object configuration
  let config (options : Option Json) : Config :=
    full none (.ofList [("required_fields", .detailed .error options)])
  have hvalid : ∀ options, (config options).validate = .ok () := by
    intro options
    have hname : "required_fields" ∈ Catalogue.names := by
      rw [Catalogue.names, List.mem_mergeSort]
      decide
    have hunknown : (config options).unknownRules = [] := by
      have hkeys : (config options).entries.keys = ["required_fields"] := rfl
      simp [unknownRules, hkeys, hname]
    unfold validate
    rw [hunknown]
    rfl
  refine ⟨rfl, rfl, config (some .null), config none, rfl, rfl, nofun, ?_, ?_⟩
  · rw [linter, hvalid]
    rfl
  · rw [linter, hvalid]
    rfl

end Config

end QueryLint
