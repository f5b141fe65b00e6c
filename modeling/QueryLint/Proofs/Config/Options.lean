import QueryLint.Proofs.Config.Assembly

/-!
# What is read as options

Main statement: `decodeRequiredFields_eq_ok_iff_documented`. The options of the rule about required
fields are meant to be an object with the list of these fields as its only member. An array with
nothing but this list is read too, and nothing else is.
-/

namespace QueryLint

/-- The options that are meant to be written for these required fields. -/
def Json.DocumentsRequired (required : List String) (options : Json) : Prop :=
  options = .object [(requiredFieldsOption, .array (required.map .string))]

/-- An array with nothing but the list of these required fields. -/
def Json.IsArrayOfRequired (required : List String) (options : Json) : Prop :=
  options = .array [.array (required.map .string)]

theorem Json.listsRequired_iff {required : List String} {options : Json} :
    options.ListsRequired required ↔
      options.DocumentsRequired required ∨ options.IsArrayOfRequired required := by
  constructor
  · intro h
    cases h with
    | object => exact .inl rfl
    | array => exact .inr rfl
  · rintro (rfl | rfl)
    · exact .object
    · exact .array

/-- An array is not what is meant to be written. -/
theorem Json.IsArrayOfRequired.not_documentsRequired {required others : List String}
    {options : Json} (h : options.IsArrayOfRequired required) :
    ¬ options.DocumentsRequired others := by
  rintro rfl
  cases h

/-- Options are read exactly if they are an object, or an array, with nothing but a list of required
fields, and these come out in their order, however often each is listed. All others are refused. So
what is meant to be written is read, and it is all that is read unless the options are such an
array. -/
theorem decodeRequiredFields_eq_ok_iff_documented (options : Json) :
    (∀ required, decodeRequiredFields options = .ok required ↔
        options.DocumentsRequired required ∨ options.IsArrayOfRequired required) ∧
      ((∃ cause, decodeRequiredFields options = .error cause) ↔
        ∀ required,
          ¬ options.DocumentsRequired required ∧ ¬ options.IsArrayOfRequired required) ∧
      ((∀ required,
          decodeRequiredFields options = .ok required ↔ options.DocumentsRequired required) ↔
        ∀ required, ¬ options.IsArrayOfRequired required) := by
  have hread (required : List String) : decodeRequiredFields options = .ok required ↔
      options.DocumentsRequired required ∨ options.IsArrayOfRequired required := by
    rw [decodeRequiredFields_eq_ok_iff, Json.listsRequired_iff]
  refine ⟨hread, ?_, ?_⟩
  · simp only [← not_or, ← hread]
    cases decodeRequiredFields options <;> simp
  · constructor
    · intro h required harray
      have hok := (hread required).mpr (.inr harray)
      exact harray.not_documentsRequired ((h required).mp hok)
    · intro h required
      rw [hread, or_iff_left (h required)]

/-- An array is read that is not meant to be written. -/
theorem decodeRequiredFields_array :
    let options : Json := .array [.array [.string "id", .string "uuid"]]
    decodeRequiredFields options = .ok ["id", "uuid"] ∧
      ∀ required, ¬ options.DocumentsRequired required := by
  intro options
  have harray : options.IsArrayOfRequired ["id", "uuid"] := rfl
  exact ⟨rfl, fun _ ↦ harray.not_documentsRequired⟩

end QueryLint
