import Mathlib.Data.List.Sort
import QueryLint.Proofs.Config.Assembly
import QueryLint.Proofs.Table
import QueryLint.Proofs.Text.ByteOrder

/-!
# The order of entries

Main statement: `Config.agrees_of_same_entries`. The entries of a configuration can be given in any
order. In what way a configuration is not valid does not depend on it either: rules that are not
known are listed in the order of their bytes, and a preset that is not known is reported before
them.
-/

namespace QueryLint

/-- Both configurations are valid, or not valid in the same way, they say the same about every rule,
and they come to the same linter or the same error. -/
structure Config.Agrees (config other : Config) : Prop where
  validate : config.validate = other.validate
  level? : ∀ rule, config.level? rule = other.level? rule
  options? : ∀ rule, config.options? rule = other.options? rule
  linter : config.linter = other.linter

/-! ## Sorted names -/

theorem pairwise_mergeSort_names (names : List String) : names.mergeSort.Pairwise (· ≤ ·) :=
  List.pairwise_mergeSort' (· ≤ ·) names

/-- Sorting forgets the order. -/
theorem mergeSort_eq_of_perm {names others : List String} (h : names.Perm others) :
    names.mergeSort = others.mergeSort := by
  have hperm : names.mergeSort.Perm others.mergeSort :=
    (List.mergeSort_perm names _).trans (h.trans (List.mergeSort_perm others _).symm)
  exact hperm.eq_of_pairwise' (pairwise_mergeSort_names names) (pairwise_mergeSort_names others)

namespace Config

variable {config : Config}

/-- Every rule that is not known is listed once, and all of them in the order of their bytes. -/
theorem pairwise_bytes_unknownRules (config : Config) :
    config.unknownRules.Pairwise fun name other ↦ Text.bytes name < Text.bytes other := by
  have hsorted : config.unknownRules.Pairwise (· ≤ ·) := pairwise_mergeSort_names _
  have hnodup : config.unknownRules.Nodup :=
    (List.mergeSort_perm _ _).nodup_iff.mpr (config.entries.nodup.filter _)
  refine (hsorted.and hnodup).imp fun {name other} h ↦ ?_
  exact Text.bytes_lt_bytes_iff.mpr (lt_of_le_of_ne h.1 h.2)

theorem agrees_of_perm {presets : Option Presets} {first second : Table RuleEntry}
    (h : first.entries.Perm second.entries) :
    (full presets first).Agrees (full presets second) := by
  have hread : first.Alike second := Table.alike_of_perm h
  have hlevel (rule : String) :
      (full presets first).level? rule = (full presets second).level? rule := by
    simp only [level?, entries, hread rule, presets?]
  have hoptions (rule : String) :
      (full presets first).options? rule = (full presets second).options? rule := by
    simp only [options?, entries, hread rule]
  have hunknown : (full presets first).unknownRules = (full presets second).unknownRules :=
    mergeSort_eq_of_perm ((h.map Prod.fst).filter _)
  have hvalid : (full presets first).validate = (full presets second).validate := by
    rw [validate_eq, validate_eq, hunknown]
    rfl
  exact ⟨hvalid, hlevel, hoptions, linter_congr hvalid hlevel fun _ ↦ hoptions _⟩

/-- With presets that are known, all rules that are not known are reported. -/
theorem validate_of_presets_known (hpresets : ∀ name ∈ config.presetNames, name = recommendedName)
    (hunknown : ∃ name ∈ config.entries.keys, name ∉ Catalogue.names) :
    config.validate = .error (.unknownRules config.unknownRules Catalogue.names) := by
  obtain ⟨name, hname⟩ := hunknown
  have hfound : config.presetNames.find? (· != recommendedName) = none :=
    List.find?_eq_none.mpr fun preset hpreset ↦ by simp [hpresets preset hpreset]
  have hrules : config.unknownRules ≠ [] := List.ne_nil_of_mem (mem_unknownRules.mpr hname)
  rw [validate_eq, hfound]
  exact if_neg hrules

/-- The first preset that is not known is reported. -/
theorem validate_of_presetNames_eq {before after : List String} {name : String}
    (h : config.presetNames = before ++ name :: after)
    (hbefore : ∀ other ∈ before, other = recommendedName) (hname : name ≠ recommendedName) :
    config.validate = .error (.unknownPreset name) := by
  have hfound : config.presetNames.find? (· != recommendedName) = some name := by
    refine List.find?_eq_some_iff_append.mpr ⟨by simpa using hname, before, after, h, ?_⟩
    intro other hother
    simp [hbefore other hother]
  rw [validate_eq, hfound]

/-- Configurations with the same presets and the same entries agree, in whatever order the entries
are given. If all presets are known but not all rules, those that are not are reported, each once
and in the order of their bytes. If a preset is not known, the first one is reported, whatever the
entries are. -/
theorem agrees_of_same_entries (presets : Option Presets) :
    (∀ first second : Table RuleEntry,
        (∀ entry, entry ∈ first.entries ↔ entry ∈ second.entries) →
          (full presets first).Agrees (full presets second)) ∧
      (∀ rules : Table RuleEntry, (∀ name ∈ presets.elim [] Presets.names, name = recommendedName) →
        (∃ name ∈ rules.keys, name ∉ Catalogue.names) →
          ∃ invalid, (full presets rules).validate =
              .error (.unknownRules invalid Catalogue.names) ∧
            (∀ name, name ∈ invalid ↔ name ∈ rules.keys ∧ name ∉ Catalogue.names) ∧
              invalid.Pairwise fun name other ↦ Text.bytes name < Text.bytes other) ∧
        ∀ before name after, presets.elim [] Presets.names = before ++ name :: after →
          (∀ other ∈ before, other = recommendedName) → name ≠ recommendedName →
            ∀ rules, (full presets rules).validate = .error (.unknownPreset name) := by
  refine ⟨?_, ?_, ?_⟩
  · intro first second h
    exact agrees_of_perm (Table.perm_of_forall_mem_iff h)
  · intro rules hpresets hunknown
    exact ⟨(full presets rules).unknownRules, validate_of_presets_known hpresets hunknown,
      fun name ↦ mem_unknownRules, pairwise_bytes_unknownRules _⟩
  · intro before name after hnames hbefore hname rules
    exact validate_of_presetNames_eq hnames hbefore hname

/-- The same entries in two orders, two of them for rules that are not known. They are reported in
the order of their bytes, unless there is a preset to report. -/
theorem agrees_of_same_entries_unknown :
    let first : Table RuleEntry := .ofList
      [("é", .bare .off), ("required_fields", .bare .warn), ("Z", .bare .error)]
    let second : Table RuleEntry := .ofList
      [("Z", .bare .error), ("é", .bare .off), ("required_fields", .bare .warn)]
    let known := Presets.single recommendedName
    let unknown := Presets.multiple [recommendedName, "strict", "lax"]
    (full known first).Agrees (full known second) ∧
      (full known second).validate = .error (.unknownRules ["Z", "é"] Catalogue.names) ∧
        (full unknown second).validate = .error (.unknownPreset "strict") := by
  intro first second known unknown
  have hsame (entry : String × RuleEntry) : entry ∈ first.entries ↔ entry ∈ second.entries := by
    show entry ∈ [("é", .bare .off), ("required_fields", .bare .warn), ("Z", .bare .error)] ↔
      entry ∈ [("Z", .bare .error), ("é", .bare .off), ("required_fields", .bare .warn)]
    simp only [List.mem_cons, List.not_mem_nil, or_false]
    tauto
  have hunknown (name : String) :
      name ∈ second.keys ∧ name ∉ Catalogue.names ↔ name ∈ ["Z", "é"] := by
    rw [Catalogue.names, List.mem_mergeSort]
    show name ∈ ["Z", "é", "required_fields"] ∧ _ ↔ _
    simp only [List.mem_cons, List.not_mem_nil, or_false]
    constructor
    · rintro ⟨rfl | rfl | rfl, hname⟩
      · exact .inl rfl
      · exact .inr rfl
      · exact absurd hname (by decide)
    · rintro (rfl | rfl) <;> decide
  obtain ⟨hagrees, hrules, -⟩ := agrees_of_same_entries (some known)
  obtain ⟨-, -, hpresets⟩ := agrees_of_same_entries (some unknown)
  obtain ⟨invalid, hvalid, hmem, hsorted⟩ :=
    hrules second (by decide) ⟨"Z", (hunknown "Z").mpr (by decide)⟩
  have hinvalid : invalid = ["Z", "é"] := by
    have hnodup : invalid.Nodup := hsorted.imp fun {name other} h ↦ by
      rintro rfl
      exact List.lt_irrefl (Text.bytes name) h
    have hperm : invalid.Perm ["Z", "é"] :=
      (List.perm_ext_iff_of_nodup hnodup (by decide)).mpr fun name ↦
        (hmem name).trans (hunknown name)
    refine hperm.eq_of_pairwise (fun _ _ _ _ h hback ↦ ?_) hsorted (by decide)
    exact absurd hback (List.lt_asymm h)
  rw [hinvalid] at hvalid
  exact ⟨hagrees first second hsame, hvalid,
    hpresets [recommendedName] "strict" ["lax"] rfl (by decide) (by decide) second⟩

end Config

end QueryLint
