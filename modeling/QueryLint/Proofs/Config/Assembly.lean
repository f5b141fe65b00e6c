import QueryLint.Proofs.Config.Enabled
import QueryLint.Proofs.Config.Grammar

/-!
# What a configuration comes to

Main statement: `Config.linter_eq_iff_comesTo`. A configuration that is not valid comes to the error
that it is refused with. A valid one comes to a linter, unless the rule about required fields is
enabled and its options are missing or cannot be read (`Config.ComesTo`). The linter has the enabled
rules of the catalogue in order.

The level of a rule is that of its entry, else that of the recommended preset
(`Config.resolvedLevel?`). It does not matter how often and where among the presets that one is
named (`Presets.level?_eq`).
-/

namespace QueryLint

/-! ## Options of the rule about required fields -/

/-- Options with nothing but a list of required fields: an object or an array that holds it. -/
inductive Json.ListsRequired (required : List String) : Json → Prop
  | object :
      ListsRequired required (.object [(requiredFieldsOption, .array (required.map .string))])
  | array : ListsRequired required (.array [.array (required.map .string)])

/-- After the list there is nothing to read. -/
theorem decodeRequiredMembers_some_eq_ok_iff {found required : List String}
    {members : List (String × Json)} :
    decodeRequiredMembers (some found) members = .ok required ↔
      members = [] ∧ found = required := by
  cases members with
  | nil => simp [decodeRequiredMembers]
  | cons member rest =>
      simp only [decodeRequiredMembers, Option.isSome_some]
      split <;> simp

/-- Options are read if they list required fields, and then these are read in their order. -/
theorem decodeRequiredFields_eq_ok_iff {options : Json} {required : List String} :
    decodeRequiredFields options = .ok required ↔ options.ListsRequired required := by
  constructor
  · intro h
    cases options with
    | object members =>
        cases members with
        | nil => cases h
        | cons member rest =>
            obtain ⟨name, value⟩ := member
            simp only [decodeRequiredFields, decodeRequiredMembers] at h
            split at h
            · cases h
            · next hname =>
                obtain ⟨found, hfound, hrest⟩ := bind_eq_ok_iff.mp h
                obtain ⟨rfl, rfl⟩ := decodeRequiredMembers_some_eq_ok_iff.mp hrest
                rw [not_ne_iff.mp hname, Json.decodeStrings_eq_ok_iff.mp hfound]
                exact .object
    | array items =>
        cases items with
        | nil => cases h
        | cons first rest =>
            obtain ⟨found, hfound, hrest⟩ := bind_eq_ok_iff.mp h
            rw [Json.decodeStrings_eq_ok_iff.mp hfound]
            cases rest with
            | nil =>
                cases hrest
                exact .array
            | cons second rest => cases hrest
    | null | bool | number | string => cases h
  · intro h
    have hread := Json.decodeStrings_map_string required
    cases h with
    | object => exact bind_eq_ok_iff.mpr ⟨required, hread, rfl⟩
    | array => exact bind_eq_ok_iff.mpr ⟨required, hread, rfl⟩

/-! ## Levels -/

/-- Presets give a rule its recommended level if the recommended one is among them. -/
theorem Presets.level?_eq (presets : Presets) (rule : String) :
    presets.level? rule =
      if Config.recommendedName ∈ presets.names then Config.recommendedLevel? rule else none := by
  have hfold (names : List String) (found : Option Level) :
      names.foldl (fun found name ↦
          if name = Config.recommendedName then Config.recommendedLevel? rule <|> found
          else found) found =
        if Config.recommendedName ∈ names then Config.recommendedLevel? rule <|> found
        else found := by
    induction names generalizing found with
    | nil => rfl
    | cons name rest ih =>
        rw [List.foldl_cons, ih]
        by_cases hname : name = Config.recommendedName
        · cases Config.recommendedLevel? rule <;> simp [hname]
        · simp [hname, Ne.symm hname]
  rw [level?, hfold]
  cases Config.recommendedLevel? rule <;> rfl

namespace Config

/-- The names of all presets that a configuration lists. -/
def presetNames (config : Config) : List String := config.presets?.elim [] Presets.names

/-- The level of a rule: that of its entry if it has one, else the recommended one if the
recommended preset is among those of the configuration. -/
def resolvedLevel? (config : Config) (rule : String) : Option Level :=
  match config.entries.get? rule with
  | some entry => some entry.level
  | none =>
    if recommendedName ∈ config.presetNames then recommendedLevel? rule else none

theorem level?_eq_resolvedLevel? (config : Config) (rule : String) :
    config.level? rule = config.resolvedLevel? rule := by
  unfold level? resolvedLevel? presetNames
  cases config.entries.get? rule with
  | some entry => rfl
  | none =>
      cases config.presets? with
      | none => rfl
      | some presets => exact presets.level?_eq rule

/-- The severity of a rule whose level is a warning or an error. -/
def resolvedSeverity? (config : Config) (rule : String) : Option Severity :=
  match config.resolvedLevel? rule with
  | some .warn => some .warning
  | some .error => some .error
  | some .off | none => none

theorem bind_severity?_level? (config : Config) (rule : String) :
    (config.level? rule).bind Level.severity? = config.resolvedSeverity? rule := by
  rw [level?_eq_resolvedLevel?, resolvedSeverity?]
  cases config.resolvedLevel? rule with
  | none => rfl
  | some level => cases level <;> rfl

/-! ## Validity -/

/-- The first preset that is not known is reported, else all rules that are not. -/
theorem validate_eq (config : Config) :
    config.validate =
      match config.presetNames.find? (· != recommendedName) with
      | some name => .error (.unknownPreset name)
      | none =>
        if config.unknownRules = [] then .ok ()
        else .error (.unknownRules config.unknownRules Catalogue.names) := by
  have hrules : (do
      unless config.unknownRules.isEmpty do
        throw (.unknownRules config.unknownRules Catalogue.names) :
        Except ConfigError Unit) =
      if config.unknownRules = [] then .ok ()
      else .error (.unknownRules config.unknownRules Catalogue.names) := by
    cases config.unknownRules <;> rfl
  unfold validate presetNames
  rw [hrules]
  cases config.presets? with
  | none => rfl
  | some presets =>
      show presets.validate >>= _ = _
      unfold Presets.validate
      simp only [Option.elim_some]
      cases presets.names.find? (· != recommendedName) <;> rfl

/-- The rules that are not known are the names of entries that are not in the catalogue. -/
theorem mem_unknownRules {config : Config} {name : String} :
    name ∈ config.unknownRules ↔ name ∈ config.entries.keys ∧ name ∉ Catalogue.names := by
  unfold unknownRules
  rw [List.mem_mergeSort, List.mem_filter]
  simp

/-- A configuration is valid if all its presets and all its rules are known. -/
theorem validate_eq_ok_iff {config : Config} :
    config.validate = .ok () ↔
      (∀ name ∈ config.presetNames, name = recommendedName) ∧
        ∀ name ∈ config.entries.keys, name ∈ Catalogue.names := by
  have hrules : config.unknownRules = [] ↔
      ∀ name ∈ config.entries.keys, name ∈ Catalogue.names := by
    simp [List.eq_nil_iff_forall_not_mem, mem_unknownRules]
  have hpresets : config.presetNames.find? (· != recommendedName) = none ↔
      ∀ name ∈ config.presetNames, name = recommendedName := by
    simp
  rw [validate_eq, ← hrules, ← hpresets]
  cases config.presetNames.find? (· != recommendedName) with
  | none => simp
  | some name => simp

/-- A configuration is refused because of a name: that of a preset, or those of rules. -/
theorem eq_names_of_validate_eq_error {config : Config} {cause : ConfigError}
    (h : config.validate = .error cause) :
    (∃ name, cause = .unknownPreset name) ∨
      ∃ names, cause = .unknownRules names Catalogue.names := by
  rw [validate_eq] at h
  split at h
  · cases h
    exact .inl ⟨_, rfl⟩
  · split at h
    · cases h
    · cases h
      exact .inr ⟨_, rfl⟩

/-! ## Linters -/

/-- A rule at its severity, if it is enabled. -/
def resolved? (config : Config) (rule : Rule) : Option ActiveRule :=
  (config.resolvedSeverity? rule.name).map (⟨rule, ·⟩)

/-- The enabled rules at their severities, in the order of the catalogue. -/
def resolvedRules (config : Config) (required : List String) : List ActiveRule :=
  [Rules.operationNames, Rules.requiredFields required, Rules.typeNames,
    Rules.noDeprecated].filterMap config.resolved?

/-- What a configuration comes to, one case for each outcome. -/
inductive ComesTo (config : Config) : Except ConfigError Linter → Prop
  | invalid {cause : ConfigError} (h : config.validate = .error cause) :
      ComesTo config (.error cause)
  | missingOptions (hvalid : config.validate = .ok ())
      (henabled : (config.resolvedSeverity? "required_fields").isSome)
      (hoptions : config.options? "required_fields" = none) :
      ComesTo config (.error (.missingOptions "required_fields"))
  | invalidOptions {options : Json} {cause : DecodeError} (hvalid : config.validate = .ok ())
      (henabled : (config.resolvedSeverity? "required_fields").isSome)
      (hoptions : config.options? "required_fields" = some options)
      (hread : decodeRequiredFields options = .error cause) :
      ComesTo config (.error (.invalidOptions "required_fields" cause))
  | linter {required : List String} (hvalid : config.validate = .ok ())
      (hrequired : (config.resolvedSeverity? "required_fields").isSome →
        ∃ options ∈ config.options? "required_fields",
          decodeRequiredFields options = .ok required) :
      ComesTo config (.ok ⟨config.resolvedRules required⟩)

variable (config : Config)

/-- A rule without options is added as it is, if it is enabled. -/
theorem enable_of_name_ne {rule : Rule} (h : rule.name ≠ "required_fields") (linter : Linter) :
    config.enable linter rule = .ok ⟨linter.rules ++ (config.resolved? rule).toList⟩ := by
  have hconfigure : Catalogue.configure rule (config.options? rule.name) = .ok rule := if_neg h
  unfold enable resolved?
  rw [bind_severity?_level?, hconfigure]
  cases config.resolvedSeverity? rule.name with
  | none => simp
  | some severity => rfl

/-- Rules without options are added one after the other. -/
theorem foldlM_enable_of_name_ne {rules : List Rule}
    (h : ∀ rule ∈ rules, rule.name ≠ "required_fields") (linter : Linter) :
    rules.foldlM config.enable linter =
      .ok ⟨linter.rules ++ rules.filterMap config.resolved?⟩ := by
  induction rules generalizing linter with
  | nil => simp [pure, Except.pure]
  | cons rule rest ih =>
      obtain ⟨hrule, hrest⟩ := List.forall_mem_cons.mp h
      rw [List.foldlM_cons, config.enable_of_name_ne hrule]
      show rest.foldlM config.enable _ = _
      rw [ih hrest]
      cases hresolved : config.resolved? rule <;> simp [hresolved]

/-- The required fields, if the rule about them is enabled. -/
def requiredFields (config : Config) : Except ConfigError (List String) :=
  if (config.resolvedSeverity? "required_fields").isSome then
    match config.options? "required_fields" with
    | none => .error (.missingOptions "required_fields")
    | some options =>
      (decodeRequiredFields options).mapError (.invalidOptions "required_fields")
  else .ok []

/-- The rule about required fields is added with these, if it is enabled. -/
theorem enable_requiredFields (linter : Linter) :
    config.enable linter (Rules.requiredFields []) =
      config.requiredFields.map fun required ↦
        ⟨linter.rules ++ (config.resolved? (Rules.requiredFields required)).toList⟩ := by
  have hname (required : List String) :
      (Rules.requiredFields required).name = "required_fields" := rfl
  unfold enable requiredFields resolved?
  simp only [hname, bind_severity?_level?]
  cases config.resolvedSeverity? "required_fields" with
  | none => simp [Except.map]
  | some severity =>
      have hconfigure (options : Option Json) :
          Catalogue.configure (Rules.requiredFields []) options =
            Catalogue.requiredFieldsWith options :=
        if_pos rfl
      rw [hconfigure]
      cases config.options? "required_fields" with
      | none => rfl
      | some options =>
          simp only [Catalogue.requiredFieldsWith]
          cases decodeRequiredFields options <;> rfl

/-- A valid configuration gives a linter if it gives the required fields. -/
theorem linter_of_valid (h : config.validate = .ok ()) :
    config.linter = config.requiredFields.map fun required ↦
      ⟨config.resolvedRules required⟩ := by
  have hlinter : config.linter = Catalogue.rules.foldlM config.enable .empty := by
    unfold linter
    rw [h]
    rfl
  have hrules : Catalogue.rules =
      [Rules.operationNames] ++ Rules.requiredFields [] ::
        [Rules.typeNames, Rules.noDeprecated] := rfl
  rw [hlinter, hrules, List.foldlM_append, foldlM_enable_of_name_ne config (by decide)]
  show List.foldlM config.enable _ (_ :: _) = _
  rw [List.foldlM_cons, enable_requiredFields]
  cases config.requiredFields with
  | error cause => rfl
  | ok required =>
      show List.foldlM config.enable _ [Rules.typeNames, Rules.noDeprecated] = _
      rw [foldlM_enable_of_name_ne config (by decide)]
      have hresolved : config.resolvedRules required =
          [Rules.operationNames].filterMap config.resolved? ++
            ((config.resolved? (Rules.requiredFields required)).toList ++
              [Rules.typeNames, Rules.noDeprecated].filterMap config.resolved?) := by
        simp only [resolvedRules, List.filterMap_eq_flatMap_toList, List.flatMap_cons,
          List.flatMap_nil, List.append_nil]
      show Except.ok _ = Except.ok (Linter.mk (config.resolvedRules required))
      rw [hresolved]
      simp [Linter.empty]

variable {config}

/-- The required fields are those that the options list, if the rule about them is enabled. -/
theorem requiredFields_eq_ok_of_isSome
    (henabled : (config.resolvedSeverity? "required_fields").isSome) {options : Json}
    (hoptions : config.options? "required_fields" = some options) :
    config.requiredFields =
      (decodeRequiredFields options).mapError (.invalidOptions "required_fields") := by
  rw [requiredFields, if_pos henabled, hoptions]

/-- A rule that is not enabled is not in the linter, whatever it would require. -/
theorem resolvedRules_eq_of_not_isSome
    (h : ¬ (config.resolvedSeverity? "required_fields").isSome = true)
    (required others : List String) :
    config.resolvedRules required = config.resolvedRules others := by
  have hnone (required : List String) :
      config.resolved? (Rules.requiredFields required) = none := by
    rw [Option.not_isSome_iff_eq_none] at h
    exact congrArg (Option.map _) h
  simp [resolvedRules, List.filterMap_cons, hnone]

/-- Every configuration comes to what it is said to come to. -/
theorem comesTo_linter (config : Config) : config.ComesTo config.linter := by
  cases hvalid : config.validate with
  | error cause =>
      rw [linter, hvalid]
      exact .invalid hvalid
  | ok =>
      rw [config.linter_of_valid hvalid]
      by_cases henabled : (config.resolvedSeverity? "required_fields").isSome = true
      · cases hoptions : config.options? "required_fields" with
        | none =>
            rw [requiredFields, if_pos henabled, hoptions]
            exact .missingOptions hvalid henabled hoptions
        | some options =>
            rw [requiredFields_eq_ok_of_isSome henabled hoptions]
            cases hread : decodeRequiredFields options with
            | error cause => exact .invalidOptions hvalid henabled hoptions hread
            | ok required => exact .linter hvalid fun _ ↦ ⟨options, hoptions, hread⟩
      · rw [requiredFields, if_neg henabled]
        exact .linter hvalid fun h ↦ absurd h henabled

/-- It does not come to anything else. -/
theorem linter_eq_of_comesTo {outcome : Except ConfigError Linter} (h : config.ComesTo outcome) :
    config.linter = outcome := by
  cases h with
  | invalid h =>
      rw [linter, h]
      rfl
  | missingOptions hvalid henabled hoptions =>
      rw [config.linter_of_valid hvalid, requiredFields, if_pos henabled, hoptions]
      rfl
  | invalidOptions hvalid henabled hoptions hread =>
      rw [config.linter_of_valid hvalid, requiredFields_eq_ok_of_isSome henabled hoptions, hread]
      rfl
  | @linter required hvalid hrequired =>
      rw [config.linter_of_valid hvalid]
      by_cases henabled : (config.resolvedSeverity? "required_fields").isSome = true
      · obtain ⟨options, hoptions, hread⟩ := hrequired henabled
        rw [requiredFields_eq_ok_of_isSome henabled hoptions, hread]
        rfl
      · rw [requiredFields, if_neg henabled, resolvedRules_eq_of_not_isSome henabled required []]
        rfl

/-! ## What is left out of account -/

/-- What decides about the linter: whether the configuration is valid, the levels of all rules, and
the options of the rule about required fields if that is enabled. -/
theorem linter_congr {other : Config} (hvalid : other.validate = config.validate)
    (hlevel : ∀ rule, other.level? rule = config.level? rule)
    (hoptions : (config.resolvedSeverity? "required_fields").isSome →
      other.options? "required_fields" = config.options? "required_fields") :
    other.linter = config.linter := by
  have hseverity (rule : String) :
      other.resolvedSeverity? rule = config.resolvedSeverity? rule := by
    rw [← bind_severity?_level?, hlevel, bind_severity?_level?]
  have hresolved : other.resolved? = config.resolved? := by
    funext rule
    rw [resolved?, hseverity, resolved?]
  have hrequired : other.requiredFields = config.requiredFields := by
    unfold requiredFields
    rw [hseverity]
    split
    · next henabled => rw [hoptions henabled]
    · rfl
  cases hfirst : config.validate with
  | error cause =>
      rw [linter, linter, hvalid, hfirst]
      rfl
  | ok =>
      rw [config.linter_of_valid hfirst, other.linter_of_valid (hvalid.trans hfirst), hrequired]
      simp only [resolvedRules, hresolved]

/-- Options do not make a configuration valid or invalid. -/
theorem validate_congr {other : Config} (hpresets : other.presets? = config.presets?)
    (hkeys : other.entries.keys = config.entries.keys) : other.validate = config.validate := by
  unfold validate unknownRules
  rw [hpresets, hkeys]

theorem level?_congr {other : Config} (hpresets : other.presets? = config.presets?)
    (hentries : other.entries.map RuleEntry.level = config.entries.map RuleEntry.level)
    (rule : String) : other.level? rule = config.level? rule := by
  unfold level?
  rw [hpresets, ← Table.get?_map, hentries, Table.get?_map]

/-- The level of a rule comes from its entry before it comes from presets. A configuration comes to
its linter or its error as its levels and the options of the rule about required fields tell, and
these options list the required fields in order. No options make it invalid, and all but those of
that rule can be changed or left out. -/
theorem linter_eq_iff_comesTo (config : Config) :
    (∀ rule, config.level? rule = config.resolvedLevel? rule) ∧
      (∀ outcome, config.linter = outcome ↔ config.ComesTo outcome) ∧
        (∀ options required,
          decodeRequiredFields options = .ok required ↔ options.ListsRequired required) ∧
          (∀ cause, config.validate = .error cause →
            (∃ name, cause = .unknownPreset name) ∨
              ∃ names, cause = .unknownRules names Catalogue.names) ∧
            ∀ other : Config, other.presets? = config.presets? →
              other.entries.map RuleEntry.level = config.entries.map RuleEntry.level →
                ((config.resolvedSeverity? "required_fields").isSome →
                  other.options? "required_fields" = config.options? "required_fields") →
                  other.linter = config.linter := by
  refine ⟨config.level?_eq_resolvedLevel?, fun outcome ↦ ⟨?_, linter_eq_of_comesTo⟩,
    fun options required ↦ decodeRequiredFields_eq_ok_iff,
    fun cause ↦ eq_names_of_validate_eq_error, ?_⟩
  · rintro rfl
    exact config.comesTo_linter
  · intro other hpresets hentries hoptions
    have hkeys := congrArg Table.keys hentries
    rw [Table.keys_map, Table.keys_map] at hkeys
    exact linter_congr (validate_congr hpresets hkeys) (level?_congr hpresets hentries) hoptions

/-- A preset is named twice, one of its rules is off and another one is an error. The options of
these two are of no use, and it makes no difference to leave them out. -/
theorem linter_eq_iff_comesTo_recommended :
    let presets := Presets.multiple [recommendedName, recommendedName]
    let required : Option Json := some (.object [("requiredFields", .array
      [.string "id", .string "at"])])
    let config := full presets <| .ofList
      [("no_deprecated_fields", .detailed .error (some (.bool true))),
        ("operations_must_have_names", .detailed .off (some .null)),
        ("required_fields", .detailed .warn required)]
    let other := full presets <| .ofList
      [("no_deprecated_fields", .bare .error), ("operations_must_have_names", .bare .off),
        ("required_fields", .detailed .warn required)]
    let linter : Linter :=
      ⟨[⟨Rules.requiredFields ["id", "at"], .warning⟩, ⟨Rules.typeNames, .warning⟩,
        ⟨Rules.noDeprecated, .error⟩]⟩
    config.linter = .ok linter ∧ other.linter = .ok linter := by
  intro presets required config other linter
  obtain ⟨-, hcomes, hread, -, hcongr⟩ := linter_eq_iff_comesTo config
  have hvalid : config.validate = .ok () := by
    refine validate_eq_ok_iff.mpr ⟨by decide, ?_⟩
    simp only [Catalogue.names, List.mem_mergeSort]
    decide
  have hlinter : config.linter = .ok linter := by
    have hrules : linter = ⟨config.resolvedRules ["id", "at"]⟩ := rfl
    rw [hcomes, hrules]
    exact .linter hvalid fun _ ↦ ⟨_, rfl, (hread _ _).mpr .object⟩
  have hsame : other.linter = config.linter := hcongr other rfl (by decide) fun _ ↦ rfl
  exact ⟨hlinter, hsame.trans hlinter⟩

end Config

end QueryLint
