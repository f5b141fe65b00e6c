import QueryLint.Language.Grammar.Document
import QueryLint.Proofs.Grammar.Executable
import QueryLint.Proofs.Grammar.TypeSystem

/-!
# Ranges and names in whole documents

Main statements: `Document.laidOut_of_read` and `Document.spelled_of_read`. In a document that has
been read from a text, the operations and fragments lie one after the other, and so do the parts of
each at every depth; and the types that they name have the characters of names.
-/

namespace QueryLint.Language.Grammar

open Reading

/-- The construct that a definition is, if its range is kept. -/
def ranged (it : Definition) : List Construct :=
  if it.isExecutable then [.definition it] else []

theorem flatMap_ranged (definitions : List Definition) : definitions.flatMap ranged =
    (definitions.filter Definition.isExecutable).map .definition := by
  induction definitions with
  | nil => rfl
  | cons definition rest ih =>
      rw [List.flatMap_cons, ih, ranged, List.filter_cons]
      split <;> rfl

theorem reads_typeSystemDefinition (keyword : String) (about : Option String) :
    Reads false (typeSystemDefinition keyword about) ranged := by
  intro cursor hcursor
  unfold typeSystemDefinition
  split
  · exact .map (reads_schemaDefinition cursor hcursor)
  · exact .map (reads_directiveDefinition about cursor hcursor)
  · split
    · exact .map (reads_typeDefinition _ about cursor hcursor)
    · exact .fail

theorem reads_extensionDefinition : Reads false extensionDefinition ranged := by
  intro cursor hcursor
  refine .look rfl ?_
  split
  · exact .map (reads_schemaExtension cursor hcursor)
  · split
    · exact .map (reads_typeExtension _ cursor hcursor)
    · exact .fail
  · exact .fail

theorem reads_describedDefinition : Reads false describedDefinition ranged := by
  intro cursor hcursor
  refine .look rfl ?_
  split
  · exact .fail
  · exact .fail
  · exact .fail
  · exact .map (reads_fragmentDefinition.mayTake cursor hcursor)
  · refine .ite .fail (.ite ?_ .fail)
    exact reads_description.pass (.refl hcursor) fun about _ h ↦
      (reads_typeSystemDefinition _ about).last h

theorem reads_keywordDefinition (keyword : String) :
    Reads false (keywordDefinition keyword) ranged := by
  intro cursor hcursor
  unfold keywordDefinition
  split
  · exact .map ((reads_operation _).mayTake cursor hcursor)
  · exact reads_extensionDefinition cursor hcursor
  · exact .map (reads_fragmentDefinition.mayTake cursor hcursor)
  · exact reads_typeSystemDefinition _ none cursor hcursor

theorem reads_definition : Reads false definition ranged := by
  intro cursor hcursor
  refine .look rfl ?_
  split
  · exact .fail
  · split
    · exact reads_describedDefinition cursor hcursor
    · exact reads_keywordDefinition _ cursor hcursor
    · exact .map (reads_shorthandQuery.mayTake cursor hcursor)
    · exact .fail

theorem reads_definitions : Reads false definitions fun items ↦ items.flatMap ranged := by
  intro cursor hcursor
  refine .look rfl (.refuse ?_)
  exact (reads_look fun _ ↦ ⟨_, rfl⟩).many reads_definition cursor hcursor

end QueryLint.Language.Grammar

namespace QueryLint.Language

/-- A document has been read from the first token of the text on. -/
theorem Document.exists_read {text : String} {document : Document}
    (h : Document.read text = .ok document) :
    ∃ cursor after, Cursor.ofText text.toList = .ok cursor ∧
      cursor.Read false after (document.definitions.flatMap Grammar.ranged) ∧
        document.span = ⟨0, Text.byteLength text.toList⟩ := by
  obtain ⟨cursor, hcursor, h⟩ := bind_eq_ok_iff.mp h
  obtain ⟨⟨definitions, after⟩, hread, h⟩ := bind_eq_ok_iff.mp h
  cases h
  have hordered := (Cursor.ordered_ofText hcursor).1
  exact ⟨cursor, after, hcursor,
    Grammar.reads_definitions cursor hordered definitions after hread, rfl⟩

theorem Document.laidOut_of_read {text : String} {document : Document}
    (h : Document.read text = .ok document) : document.LaidOut := by
  obtain ⟨cursor, after, hcursor, hall, hspan⟩ := Document.exists_read h
  have hend : after.consumed ≤ Text.byteLength text.toList := by
    rw [← (Cursor.ordered_ofText hcursor).2, ← hall.length_eq]
    exact hall.ordered.le
  unfold LaidOut
  rw [← Grammar.flatMap_ranged, hspan]
  rcases hall.laidOut with hnone | hsome
  · rw [hnone]
    exact .nil (Nat.zero_le _)
  · exact hsome.mono (Nat.zero_le _) hend

theorem Document.spelled_of_read {text : String} {document : Document}
    (h : Document.read text = .ok document) {it : Definition} (hmem : it ∈ document.definitions)
    (hexecutable : it.isExecutable = true) : (Construct.definition it).Spelled := by
  obtain ⟨cursor, after, hcursor, hall, -⟩ := Document.exists_read h
  refine (hall.spelled (Cursor.spelled_ofText hcursor)).2 _ (List.mem_flatMap.mpr ⟨it, hmem, ?_⟩)
  rw [Grammar.ranged, if_pos hexecutable]
  exact List.mem_singleton_self _

end QueryLint.Language
