import QueryLint.Lint.Diagnostic

/-!
# Listings that can be read back

A listing numbers texts, one line each. Main statement: `Diagnostic.numbered_legible`. Where no text
has a line break in it, the lines of a listing are the entries of the texts in their order, whatever
brackets, digits or notes stand in them, so no other texts have the same listing.
-/

namespace QueryLint

/-- The lines of a text, which line breaks divide. -/
def Text.lines (text : String) : List String :=
  (text.toList.splitOn '\n').map String.ofList

namespace Diagnostic

/-- No text has a line break in it. -/
def Unbroken (lines : List String) : Prop := ∀ line ∈ lines, '\n' ∉ line.toList

instance (lines : List String) : Decidable (Unbroken lines) :=
  inferInstanceAs (Decidable (∀ line ∈ lines, '\n' ∉ line.toList))

/-- A text with its number in brackets and a space before it. -/
def entry (number : Nat) (line : String) : String := "[" ++ toString number ++ "] " ++ line

theorem numberedFrom_eq_mapIdx (first : Nat) (lines : List String) :
    numberedFrom first lines = lines.mapIdx fun i line ↦ entry (first + i) line := by
  induction lines generalizing first with
  | nil => rfl
  | cons line rest ih =>
      rw [numberedFrom, ih, List.mapIdx_cons]
      simp only [entry, Nat.add_zero, Nat.add_assoc, Nat.add_comm 1]

theorem mapIdx_entry_render (diagnostics : List Diagnostic) :
    (diagnostics.map render).mapIdx (fun i line ↦ entry (i + 1) line) =
      diagnostics.mapIdx fun i it ↦ "[" ++ toString (i + 1) ++ "] " ++ it.render := by
  refine List.ext_getElem? fun i ↦ ?_
  simp only [List.getElem?_mapIdx, List.getElem?_map, Option.map_map]
  rfl

/-! ## Lines -/

/-- The digits of a number hold no line break. -/
theorem not_mem_toList_toString (number : Nat) : '\n' ∉ (toString number).toList := by
  intro h
  rw [Nat.toString_eq_repr, Nat.toList_repr] at h
  have hdigit : '\n'.isDigit = true := Nat.isDigit_of_mem_toDigits (by decide) (by decide) h
  exact absurd hdigit (by decide)

theorem not_mem_toList_entry (number : Nat) {line : String} (h : '\n' ∉ line.toList) :
    '\n' ∉ (entry number line).toList := by
  have hnumber := not_mem_toList_toString number
  simp only [entry, String.toList_append, List.mem_append, not_or]
  exact ⟨⟨⟨by decide, hnumber⟩, by decide⟩, h⟩

theorem Unbroken.numberedFrom {lines : List String} (h : Unbroken lines) (first : Nat) :
    Unbroken (numberedFrom first lines) := by
  intro line hline
  rw [numberedFrom_eq_mapIdx] at hline
  obtain ⟨i, hi, rfl⟩ := List.mem_mapIdx.mp hline
  exact not_mem_toList_entry (first + i) (h _ (List.getElem_mem hi))

/-- Texts without line breaks can be told apart after they are joined by line breaks. -/
theorem lines_intercalate {lines : List String} (h : Unbroken lines) (hlines : lines ≠ []) :
    Text.lines (String.intercalate "\n" lines) = lines := by
  have hsplit : (['\n'].intercalate (lines.map String.toList)).splitOn '\n' =
      lines.map String.toList := by
    refine List.splitOn_intercalate '\n' (fun line hline ↦ ?_) (by simpa using hlines)
    obtain ⟨text, htext, rfl⟩ := List.mem_map.mp hline
    exact h text htext
  have htext : (String.intercalate "\n" lines).toList =
      ['\n'].intercalate (lines.map String.toList) := String.toList_intercalate
  rw [Text.lines, htext, hsplit, List.map_map]
  exact (List.map_congr_left fun line _ ↦ String.ofList_toList).trans (List.map_id lines)

/-- The lines of a listing are the numbered texts. -/
theorem lines_numbered_of_ne_nil {lines : List String} (h : Unbroken lines) (hlines : lines ≠ []) :
    Text.lines (numbered lines) = numberedFrom 1 lines := by
  cases lines with
  | nil => exact absurd rfl hlines
  | cons line rest =>
      show Text.lines (String.intercalate "\n" (numberedFrom 1 (line :: rest))) = _
      exact lines_intercalate (h.numberedFrom 1) (List.cons_ne_nil _ _)

/-- A listing has a line for each text, or one that says that there are none. -/
theorem lines_numbered {lines : List String} (h : Unbroken lines) :
    Text.lines (numbered lines) =
      if lines = [] then ["(no diagnostics)"]
      else lines.mapIdx fun i line ↦ entry (i + 1) line := by
  split
  · next hnil =>
      rw [hnil]
      decide
  · next hlines =>
      rw [lines_numbered_of_ne_nil h hlines, numberedFrom_eq_mapIdx]
      simp only [Nat.add_comm 1]

/-! ## Texts that are told apart -/

theorem numberedFrom_inj {first : Nat} {lines others : List String}
    (h : numberedFrom first lines = numberedFrom first others) : lines = others := by
  induction lines generalizing first others with
  | nil =>
      cases others with
      | nil => rfl
      | cons other others => cases h
  | cons line rest ih =>
      cases others with
      | nil => cases h
      | cons other others =>
          obtain ⟨hline, hrest⟩ := List.cons.inj h
          rw [(String.append_right_inj _).mp hline, ih hrest]

/-- A listing of texts begins with the bracket of the first number, and the note does not. -/
theorem numbered_cons_ne (line : String) (rest : List String) :
    numbered (line :: rest) ≠ numbered [] := by
  intro h
  have hfirst : (numbered (line :: rest)).toList.head? = some '[' := by
    show (String.intercalate "\n" (numberedFrom 1 (line :: rest))).toList.head? = some '['
    rw [String.toList_intercalate]
    cases rest <;> simp [numberedFrom, List.intercalate]
  rw [h] at hfirst
  exact absurd hfirst (by decide)

theorem numbered_inj {lines others : List String} (hlines : Unbroken lines)
    (hothers : Unbroken others) (h : numbered lines = numbered others) : lines = others := by
  cases lines with
  | nil =>
      cases others with
      | nil => rfl
      | cons other others => exact absurd h.symm (numbered_cons_ne other others)
  | cons line rest =>
      cases others with
      | nil => exact absurd h (numbered_cons_ne line rest)
      | cons other others =>
          have hsame := congrArg Text.lines h
          rw [lines_numbered_of_ne_nil hlines (List.cons_ne_nil line rest),
            lines_numbered_of_ne_nil hothers (List.cons_ne_nil other others)] at hsame
          exact numberedFrom_inj hsame

/-- Where no text has a line break in it, the lines of a listing are the texts in their order, each
after its number in brackets and a space, or the one note that there are none, and no other texts
without line breaks have the same listing. The note is the listing of no texts at all, whatever they
hold. The same goes for a listing of diagnostics and the lines that these print as. -/
theorem numbered_legible :
    (∀ lines, Unbroken lines → Text.lines (numbered lines) =
        if lines = [] then ["(no diagnostics)"]
        else lines.mapIdx fun i line ↦ "[" ++ toString (i + 1) ++ "] " ++ line) ∧
      (∀ lines others, Unbroken lines → Unbroken others → numbered lines = numbered others →
        lines = others) ∧
      (∀ lines, lines ≠ [] → numbered lines ≠ numbered []) ∧
      (∀ diagnostics : List Diagnostic, Unbroken (diagnostics.map render) →
        Text.lines (listing diagnostics) =
          if diagnostics = [] then ["(no diagnostics)"]
          else diagnostics.mapIdx fun i it ↦ "[" ++ toString (i + 1) ++ "] " ++ it.render) ∧
      (∀ diagnostics others : List Diagnostic, Unbroken (diagnostics.map render) →
        Unbroken (others.map render) → listing diagnostics = listing others →
          diagnostics.map render = others.map render) ∧
      ∀ diagnostics : List Diagnostic, diagnostics ≠ [] → listing diagnostics ≠ listing [] := by
  have hnote (lines : List String) (hlines : lines ≠ []) : numbered lines ≠ numbered [] := by
    obtain ⟨line, rest, rfl⟩ := List.exists_cons_of_ne_nil hlines
    exact numbered_cons_ne line rest
  refine ⟨fun lines h ↦ lines_numbered h, fun lines others ↦ numbered_inj, hnote, ?_, ?_, ?_⟩
  · intro diagnostics h
    rw [listing, lines_numbered h, mapIdx_entry_render]
    simp only [List.map_eq_nil_iff]
  · exact fun diagnostics others ↦ numbered_inj
  · exact fun diagnostics h ↦ hnote _ fun hnil ↦ h (List.map_eq_nil_iff.mp hnil)

/-- Texts that look like entries, and like the note. -/
theorem numbered_legible_lookalikes :
    let lines := ["(no diagnostics)", "[3] a", ""]
    let others := ["(no diagnostics)", "[3] a"]
    Unbroken lines ∧ Unbroken others ∧
      Text.lines (numbered lines) = ["[1] (no diagnostics)", "[2] [3] a", "[3] "] ∧
        numbered lines ≠ numbered others ∧ numbered ["(no diagnostics)"] ≠ numbered [] := by
  intro lines others
  obtain ⟨hlines, hinj, hnote, -⟩ := numbered_legible
  have hunbroken : Unbroken lines := by decide
  have hothers : Unbroken others := by decide
  refine ⟨hunbroken, hothers, (hlines lines hunbroken).trans (by decide), fun h ↦ ?_, ?_⟩
  · exact absurd (hinj lines others hunbroken hothers h) (by decide)
  · exact hnote _ (List.cons_ne_nil _ _)

end Diagnostic

end QueryLint
