import QueryLint.Proofs.Walk.Places

/-!
# Induction along rows of constructs

Main statement: `Construct.row_induction`. What is kept from the parts of a construct and the row
after it to the construct with that row goes for all rows. It rests on parts being smaller than what
they stand in (`Construct.Below.parts`).
-/

namespace QueryLint.Language.Construct

/-- The constructs of the row are smaller than this. -/
def Below (bound : Nat) (row : List Construct) : Prop := ∀ part ∈ row, sizeOf part < bound

namespace Below

variable {bound : Nat}

theorem nil : Below bound [] := List.forall_mem_nil _

theorem cons {here : Construct} {rest : List Construct} (hhere : sizeOf here < bound)
    (hrest : Below bound rest) : Below bound (here :: rest) :=
  List.forall_mem_cons.mpr ⟨hhere, hrest⟩

theorem append {row others : List Construct} (hrow : Below bound row)
    (hothers : Below bound others) : Below bound (row ++ others) :=
  List.forall_mem_append.mpr ⟨hrow, hothers⟩

theorem map {α : Type} [SizeOf α] {construct : α → Construct}
    (hsize : ∀ item, sizeOf (construct item) = 1 + sizeOf item) {items : List α}
    (h : sizeOf items < bound) : Below bound (items.map construct) := by
  refine List.forall_mem_map.mpr fun item hitem ↦ ?_
  have hlt := List.sizeOf_lt_of_mem hitem
  rw [hsize]
  omega

theorem optional {α : Type} [SizeOf α] {construct : α → Construct}
    (hsize : ∀ item, sizeOf (construct item) = 1 + sizeOf item) {item : Option α}
    (h : sizeOf item < bound) : Below bound (item.toList.map construct) := by
  cases item with
  | none => exact nil
  | some item =>
      refine cons ?_ nil
      rw [hsize]
      exact h

theorem ofBody {it : TypeDefinition} (h : sizeOf it < bound) :
    Below bound (ofBody (it.directives.map directive) it.body) := by
  obtain ⟨description, name, directives, body⟩ := it
  have hdirectives : Below bound (directives.map directive) :=
    map (fun _ ↦ rfl) (by simp at h; omega)
  cases body with
  | scalar => exact hdirectives
  | object | interface =>
      exact ((map (fun _ ↦ rfl) (by simp at h; omega)).append hdirectives).append
        (map (fun _ ↦ rfl) (by simp at h; omega))
  | union | enum | input =>
      exact hdirectives.append (map (fun _ ↦ rfl) (by simp at h; omega))

/-- What stands in a construct is smaller than it. -/
theorem parts (here : Construct) : Below (sizeOf here) here.parts := by
  cases here with
  | definition it =>
      cases it with
      | operation it =>
          cases it
          exact ((map (fun _ ↦ rfl) (by simp; omega)).append
            (map (fun _ ↦ rfl) (by simp; omega))).append (cons (by simp; omega) nil)
      | fragment it =>
          cases it
          exact cons (by simp; omega)
            ((map (fun _ ↦ rfl) (by simp; omega)).append (cons (by simp; omega) nil))
      | schema it | extendSchema it =>
          cases it
          exact (map (fun _ ↦ rfl) (by simp; omega)).append (map (fun _ ↦ rfl) (by simp; omega))
      | directive it =>
          cases it
          exact map (fun _ ↦ rfl) (by simp; omega)
      | type it | extendType it => exact ofBody (by simp; omega)
  | variableDefinition it =>
      cases it
      exact cons (by simp; omega) (cons (by simp; omega)
        ((optional (fun _ ↦ rfl) (by simp; omega)).append (map (fun _ ↦ rfl) (by simp; omega))))
  | type it =>
      cases it with
      | named name required =>
          refine cons ?_ nil
          rw [namedType.sizeOf_spec, type.sizeOf_spec, TypeExpr.named.sizeOf_spec]
          omega
      | list item required =>
          refine cons ?_ nil
          rw [type.sizeOf_spec, type.sizeOf_spec, TypeExpr.list.sizeOf_spec]
          omega
  | value it =>
      cases it with
      | list span items => exact map (fun _ ↦ rfl) (by simp; omega)
      | object span fields => exact map (fun _ ↦ rfl) (by simp; omega)
      | _ => exact nil
  | objectField it | argument it =>
      cases it
      exact optional (fun _ ↦ rfl) (by simp; omega)
  | directive it | selectionSet it | enumValueDefinition it =>
      cases it
      exact map (fun _ ↦ rfl) (by simp; omega)
  | selection it =>
      cases it with
      | field it =>
          cases it
          exact ((map (fun _ ↦ rfl) (by simp; omega)).append
            (map (fun _ ↦ rfl) (by simp; omega))).append (optional (fun _ ↦ rfl) (by simp; omega))
      | inline it =>
          cases it
          exact ((optional (fun _ ↦ rfl) (by simp; omega)).append
            (map (fun _ ↦ rfl) (by simp; omega))).append (cons (by simp; omega) nil)
      | spread span name directives => exact map (fun _ ↦ rfl) (by simp; omega)
  | rootDefinition it =>
      cases it
      exact optional (fun _ ↦ rfl) (by simp; omega)
  | fieldDefinition it =>
      cases it
      exact (map (fun _ ↦ rfl) (by simp; omega)).append
        (cons (by simp; omega) (map (fun _ ↦ rfl) (by simp; omega)))
  | inputValueDefinition it =>
      cases it
      exact cons (by simp; omega) (map (fun _ ↦ rfl) (by simp; omega))
  | declared | namedType => exact nil

end Below

/-- What goes for the empty row, and for a construct with a row after it if for its parts and for
that row, goes for all rows. -/
theorem row_induction {p : List Construct → Prop} (nil : p [])
    (cons : ∀ here rest, p here.parts → p rest → p (here :: rest)) (row : List Construct) :
    p row := by
  have hcons (here : Construct) : ∀ rest, p rest → p (here :: rest) := by
    induction hsize : sizeOf here using Nat.strongRecOn generalizing here with
    | ind size ih =>
        subst hsize
        have hrow (row : List Construct) (h : Below (sizeOf here) row) : p row := by
          induction row with
          | nil => exact nil
          | cons part rest ihrest =>
              obtain ⟨hpart, hrest⟩ := List.forall_mem_cons.mp h
              exact ih _ hpart part rfl rest (ihrest hrest)
        exact fun rest hrest ↦ cons here rest (hrow here.parts (.parts here)) hrest
  induction row with
  | nil => exact nil
  | cons here rest ih => exact hcons here rest ih

end QueryLint.Language.Construct
