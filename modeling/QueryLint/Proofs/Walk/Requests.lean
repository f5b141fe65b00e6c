import QueryLint.Walk.Requested

/-!
# Where a requested field stands

A field is within reach of a selection set if it stands in the set itself or directly in one of its
inline fragments. Main statement: `SelectionSet.requests_iff_reaches`.
-/

namespace QueryLint.Language

/-- A field of this name is among the selections. -/
def Selects (items : List Selection) (name : String) : Prop :=
  ∃ field : Field, .field field ∈ items ∧ field.name.text = name

/-- A field of this name stands in the selection set or directly in an inline fragment of it. -/
def SelectionSet.Reaches (set : SelectionSet) (name : String) : Prop :=
  Selects set.items name ∨
    ∃ fragment : InlineFragment, .inline fragment ∈ set.items ∧
      Selects fragment.selections.items name

theorem any_selects_iff (items : List Selection) (name : String) :
    items.any (Selection.selects name) = true ↔ Selects items name := by
  rw [List.any_eq_true]
  constructor
  · rintro ⟨selection, hmem, hselects⟩
    cases selection with
    | field field => exact ⟨field, hmem, by simpa [Selection.selects] using hselects⟩
    | inline fragment => simp [Selection.selects] at hselects
    | spread span target directives => simp [Selection.selects] at hselects
  · rintro ⟨field, hmem, hname⟩
    exact ⟨.field field, hmem, by simpa [Selection.selects] using hname⟩

/-- A selection set requests the fields within its reach. -/
theorem SelectionSet.requests_iff_reaches (set : SelectionSet) (name : String) :
    set.requests name = true ↔ set.Reaches name := by
  unfold requests Reaches
  rw [List.any_eq_true]
  constructor
  · rintro ⟨selection, hmem, hrequests⟩
    cases selection with
    | field field => exact .inl ⟨field, hmem, by simpa [Selection.requests] using hrequests⟩
    | inline fragment =>
        exact .inr ⟨fragment, hmem, (any_selects_iff fragment.selections.items name).1 hrequests⟩
    | spread span target directives => simp [Selection.requests] at hrequests
  · rintro (⟨field, hmem, hname⟩ | ⟨fragment, hmem, hselects⟩)
    · exact ⟨.field field, hmem, by simpa [Selection.requests] using hname⟩
    · exact ⟨.inline fragment, hmem, (any_selects_iff fragment.selections.items name).2 hselects⟩

instance (set : SelectionSet) (name : String) : Decidable (set.Reaches name) :=
  decidable_of_iff (set.requests name = true) (set.requests_iff_reaches name)

end QueryLint.Language
