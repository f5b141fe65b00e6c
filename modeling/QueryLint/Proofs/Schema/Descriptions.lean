import QueryLint.Proofs.Grammar.TypeSystem
import QueryLint.Proofs.Schema.Contents
import QueryLint.Proofs.Text.Trimming

/-!
# What is recorded of a description

A description is a string, quoted or a block string. What is recorded of it is its text without any
quotes at the two ends, and then without blanks at the ends. Main statement:
`Schema.description_of_string`. With the delimiters go the quotes of the content that stand next to
them, whether they are escaped or not. So the content is recorded exactly if no quote stands at
either end of it.
-/

namespace QueryLint

open QueryLint.Language

/-! ## Strings without their delimiters -/

/-- The delimiters of a string go together with the quotes next to them. -/
theorem Language.Scan.Encloses.trimBoth_quote {text content : List Char}
    (h : Scan.Encloses text content) :
    Text.trimBoth (· == '"') text = Text.trimBoth (· == '"') content := by
  cases h with
  | quoted =>
      have hquote : ∀ c ∈ ['"'], (c == '"') = true := by simp
      exact Text.trimBoth_append hquote hquote
  | block =>
      have hquotes : ∀ c ∈ ['"', '"', '"'], (c == '"') = true := by simp
      exact Text.trimBoth_append hquotes hquotes

/-! ## Types with descriptions -/

/-- Members do not change the description of a type. -/
theorem TypeDef.description_foldl_addMembers (type : TypeDef) (bodies : List TypeBody) :
    (bodies.foldl addMembers type).description = type.description := by
  induction bodies generalizing type with
  | nil => rfl
  | cons body rest ih =>
      rw [List.foldl_cons, ih]
      cases body <;> rfl

theorem TypeDef.description_ofDefinition (definition : TypeDefinition) :
    (ofDefinition definition).description = definition.description.map descriptionText :=
  description_foldl_addMembers (bare _ _ _) [definition.body]

/-- At a string there is a description, and it is the string. -/
theorem Language.Grammar.yields_description {cursor : Cursor} {token : Token}
    (htoken : cursor.current? = some token) (hkind : token.kind = .string) :
    Reading.Yields description cursor fun about _ ↦ about = some token.word := by
  refine .look rfl ?_
  simp only [htoken, if_pos hkind]
  have hadvance : Reading.Yields Reading.advance cursor fun _ _ ↦ True := fun _ _ _ ↦ trivial
  exact hadvance.bind fun _ _ _ ↦ .pure rfl

namespace Schema

/-- Whatever has the description `given` records it as `recorded`: a type of a schema, a field, an
argument or input field, and an enum value. -/
structure RecordedAs (given recorded : String) : Prop where
  type : ∀ definitions schema, ofDefinitions definitions = .ok schema →
    ∀ definition, .type definition ∈ definitions → definition.description = some given →
      (schema.type? definition.name.text).map TypeDef.description = some (some recorded)
  field : ∀ definition : FieldDefinition, definition.description = some given →
    (FieldDef.ofDefinition definition).description = some recorded
  inputValue : ∀ definition : InputValueDefinition, definition.description = some given →
    (InputValueDef.ofDefinition definition).description = some recorded
  enumValue : ∀ definition : EnumValueDefinition, definition.description = some given →
    (EnumValueDef.ofDefinition definition).description = some recorded

theorem recordedAs_iff {given recorded : String} :
    RecordedAs given recorded ↔ recorded = descriptionText given := by
  constructor
  · intro h
    have hvalue := h.enumValue ⟨some given, default, []⟩ rfl
    exact (Option.some.inj hvalue).symm
  · rintro rfl
    refine ⟨?_, ?_, ?_, ?_⟩
    · intro definitions schema h definition hmem habout
      rw [(holds_of_ofDefinitions h).type definition hmem, Option.map_some,
        TypeDef.description_foldl_addMembers, TypeDef.description_ofDefinition, habout]
      rfl
    all_goals
      intro definition habout
      exact congrArg (Option.map descriptionText) habout

/-- Every string of a text has one content between its delimiters. As a description it is recorded
without the quotes at the ends of its content, and then without blanks. That is the content without
blanks at its ends exactly if no quote stands at either end of the content. -/
theorem description_of_string {source : List Char} {token : Token}
    (hmem : .token token ∈ Lexeme.ofText source) (hkind : token.kind = .string) :
    ∃ content, (∀ other, Scan.Encloses token.text other ↔ other = content) ∧
      (∀ cursor about after, cursor.current? = some token →
        Grammar.description cursor = .ok (about, after) → about = some token.word) ∧
      RecordedAs token.word
        (String.ofList (Text.trimBoth Text.isBlank (Text.trimBoth (· == '"') content))) ∧
      (RecordedAs token.word (String.ofList (Text.trimBoth Text.isBlank content)) ↔
        content.head? ≠ some '"' ∧ content.getLast? ≠ some '"') := by
  obtain ⟨content, hcontent⟩ := Lexeme.exists_encloses hmem hkind
  have hrecorded : descriptionText token.word =
      String.ofList (Text.trimBoth Text.isBlank (Text.trimBoth (· == '"') content)) := by
    rw [descriptionText, Token.word, String.toList_ofList,
      ((hcontent content).mpr rfl).trimBoth_quote]
  refine ⟨content, hcontent, ?_, ?_, ?_⟩
  · exact fun cursor about after htoken hread ↦
      Grammar.yields_description htoken hkind about after hread
  · exact recordedAs_iff.mpr hrecorded.symm
  · rw [recordedAs_iff, hrecorded, String.ofList_inj, eq_comm]
    exact Text.trimBoth_trimBoth_eq_iff (by decide)

/-- A block string with quotes inside its content, which are kept. -/
theorem description_of_string_block :
    let source := "\"\"\" the \"id\" \"\"\" scalar Key"
    ∃ token content, .token token ∈ Lexeme.ofText source.toList ∧ token.kind = .string ∧
      Scan.Encloses token.text content ∧
        RecordedAs token.word (String.ofList (Text.trimBoth Text.isBlank content)) := by
  intro source
  let content := " the \"id\" ".toList
  let token : Token := ⟨.string, '"' :: '"' :: '"' :: (content ++ ['"', '"', '"']), 0⟩
  have hmem : .token token ∈ Lexeme.ofText source.toList := by decide
  obtain ⟨found, hfound, -, -, hkept⟩ := description_of_string hmem rfl
  have hblock : Scan.Encloses token.text content := .block fun hlast ↦ absurd hlast (by decide)
  obtain rfl := (hfound content).mp hblock
  exact ⟨token, content, hmem, rfl, hblock, hkept.mpr (by decide)⟩

/-- A description that ends with an escaped quote: the quote is lost, its backslash is not. -/
theorem load_description_quoted :
    let source := "\"say \\\"hi\\\"\" type Query \x7b a: Int \x7d"
    ∃ token content schema type,
      .token token ∈ Lexeme.ofText source.toList ∧ Scan.Encloses token.text content ∧
        load source = .ok schema ∧ schema.type? "Query" = some type ∧
          type.description = some "say \\\"hi\\" ∧
            String.ofList (Text.trimBoth Text.isBlank content) = "say \\\"hi\\\"" := by
  intro source
  let content := "say \\\"hi\\\"".toList
  let token : Token := ⟨.string, '"' :: (content ++ ['"']), 0⟩
  have hmem : .token token ∈ Lexeme.ofText source.toList := by decide
  have hquoted : Scan.Encloses token.text content := .quoted (by decide) fun _ ↦ by decide
  have hfound : ((load source).toOption.bind (·.type? "Query")).any
      (·.description = some "say \\\"hi\\") = true := by
    decide +kernel
  cases hschema : load source with
  | error cause =>
      rw [hschema] at hfound
      cases hfound
  | ok schema =>
      rw [hschema] at hfound
      obtain ⟨type, htype, habout⟩ := (Option.any_eq_true _ _).mp hfound
      refine ⟨token, content, schema, type, hmem, hquoted, rfl, htype, ?_, by decide⟩
      exact of_decide_eq_true habout

end Schema

end QueryLint
