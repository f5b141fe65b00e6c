import QueryLint.Proofs.Config.Enabled

/-!
# Linters with rules of the catalogue

Main statement: `Config.builtIn_of_linter`. Every linter that a configuration gives is built in: its
rules are those of the catalogue, the rule about required fields with some list of them.
-/

namespace QueryLint

/-- The rules of the catalogue, the rule about required fields with any list of them. -/
inductive Rule.BuiltIn : Rule → Prop
  | operationNames : BuiltIn Rules.operationNames
  | requiredFields (required : List String) : BuiltIn (Rules.requiredFields required)
  | typeNames : BuiltIn Rules.typeNames
  | noDeprecated : BuiltIn Rules.noDeprecated

/-- The linter has rules of the catalogue only: in any order, any number of times and at any
severities. -/
def Linter.BuiltIn (linter : Linter) : Prop :=
  ∀ active ∈ linter.rules, active.rule.BuiltIn

namespace Linter.BuiltIn

theorem empty : Linter.empty.BuiltIn := by
  intro active hactive
  cases hactive

theorem add {linter : Linter} {rule : Rule} (h : linter.BuiltIn) (hrule : rule.BuiltIn)
    (severity : Severity) : (linter.add rule severity).BuiltIn := by
  intro active hactive
  rcases List.mem_append.mp hactive with hbefore | hlast
  · exact h active hbefore
  · rw [List.mem_singleton.mp hlast]
    exact hrule

end Linter.BuiltIn

/-! ## Linters from configurations -/

namespace Catalogue

theorem builtIn_of_mem {rule : Rule} (h : rule ∈ rules) : rule.BuiltIn := by
  simp only [rules, List.mem_cons, List.not_mem_nil, or_false] at h
  rcases h with rfl | rfl | rfl | rfl
  · exact .operationNames
  · exact .requiredFields []
  · exact .typeNames
  · exact .noDeprecated

theorem builtIn_of_configure {rule configured : Rule} {options : Option Json}
    (hrule : rule.BuiltIn) (h : configure rule options = .ok configured) :
    configured.BuiltIn := by
  unfold configure at h
  split at h
  · obtain ⟨required, rfl⟩ := eq_of_requiredFieldsWith h
    exact .requiredFields required
  · cases h
    exact hrule

end Catalogue

/-- A configuration gives linters with rules of the catalogue only. -/
theorem Config.builtIn_of_linter {config : Config} {linter : Linter}
    (h : config.linter = .ok linter) : linter.BuiltIn := by
  intro active hactive
  obtain ⟨rule, hrule, henabled⟩ := exists_enabled?_of_mem h hactive
  have hconfigured := (enabled?_eq_some_iff.mp henabled).2
  exact Catalogue.builtIn_of_configure (Catalogue.builtIn_of_mem hrule) hconfigured

end QueryLint
