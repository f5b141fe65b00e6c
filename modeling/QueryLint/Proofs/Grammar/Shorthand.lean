import QueryLint.Proofs.Grammar.Document

/-!
# Operations without a keyword

An operation can be written as its selection set alone. Main statement:
`Document.kind_of_span_eq`. In a document that has been read from a text, an operation whose range is
that of its selection set is a query, since the keyword of any other takes bytes of its own.
-/

namespace QueryLint.Language

/-- A construct in a row that is laid out does not begin before the row does. -/
theorem LaidOut.start_le_of_mem {start stop : Nat} {row : List Construct}
    (h : LaidOut start stop row) {here : Construct} (hmem : here ∈ row) {span : Span}
    (hspan : here.span? = some span) : start ≤ span.start := by
  induction h with
  | nil => cases hmem
  | @cons start stop first front rest hfirst hstart hparts _ _ ihrest =>
      rcases List.mem_cons.mp hmem with rfl | hlater
      · rw [hspan] at hfirst
        cases hfirst
        exact hstart
      · exact Nat.le_trans hstart (Nat.le_trans hparts.le (ihrest hlater))

/-- If the definition is an operation of the range of its selection set, it is a query. -/
def Definition.NamesKind : Definition → Prop
  | operation it => it.span = it.selections.span → it.kind = .query
  | _ => True

namespace Reading

variable {α : Type} {taken : Bool} {starts : Reading Bool} {item : Reading α}
  {row : α → List Construct} {good : α → Prop}

/-- What holds of every item that can be read holds of all that are read in a row. -/
theorem yields_manyUpTo (hstarts : Reads false starts fun _ ↦ []) (hreads : Reads taken item row)
    (hgood : ∀ cursor, cursor.Ordered → Yields item cursor fun it _ ↦ good it) (bound : Nat) :
    ∀ cursor, cursor.Ordered →
      Yields (manyUpTo starts item bound) cursor fun items _ ↦ ∀ it ∈ items, good it := by
  induction bound with
  | zero => exact fun _ _ ↦ .pure (List.forall_mem_nil _)
  | succ bound ih =>
      intro cursor hcursor
      refine hstarts.pass (.refl hcursor) fun go middle hgo ↦ .ite ?_ (.pure (List.forall_mem_nil _))
      intro items after hread
      obtain ⟨⟨first, between⟩, hfirst, hread⟩ := bind_eq_ok_iff.mp hread
      obtain ⟨⟨rest, last⟩, hrest, hread⟩ := bind_eq_ok_iff.mp hread
      cases hread
      have hbetween := (hreads middle hgo.ordered first between hfirst).ordered
      exact List.forall_mem_cons.mpr ⟨hgood middle hgo.ordered first between hfirst,
        ih between hbetween rest after hrest⟩

theorem yields_many (hstarts : Reads false starts fun _ ↦ []) (hreads : Reads taken item row)
    (hgood : ∀ cursor, cursor.Ordered → Yields item cursor fun it _ ↦ good it) {cursor : Cursor}
    (hcursor : cursor.Ordered) :
    Yields (many starts item) cursor fun items _ ↦ ∀ it ∈ items, good it :=
  .look rfl (yields_manyUpTo hstarts hreads hgood _ cursor hcursor)

end Reading

namespace Grammar

open Reading

variable {cursor : Cursor}

/-- The keyword of an operation stands before its selection set. -/
theorem yields_operation_apart (kind : OperationKind) (hcursor : cursor.Ordered) {token : Token}
    (htoken : cursor.current? = some token) (hword : token.text ≠ []) :
    Yields (operation kind) cursor fun it _ ↦ it.span ≠ it.selections.span := by
  refine .look rfl (.bind (yields_advance hcursor) fun _ middle ⟨hkeyword, hstop⟩ ↦ .look rfl ?_)
  have hstart : Cursor.Read false middle middle [] := .refl hkeyword.ordered
  refine reads_name.passIf hstart fun operationName _ h ↦ ?_
  refine reads_variableDefinitions.next h fun declared _ h ↦ ?_
  refine (reads_directives false nestingLimit).next h fun used _ h ↦ ?_
  refine reads_topSelectionSet.next h fun selections after h ↦ .look rfl (.pure ?_)
  intro hspan
  have hlaid := h.laidOut.resolve_left (by simp)
  have hbegin : middle.offset ≤ selections.span.start :=
    hlaid.start_le_of_mem (List.mem_append_right _ List.mem_cons_self) rfl
  have hbehind : token.span.stop ≤ middle.offset := hstop token htoken ▸ hkeyword.ordered.consumed_le
  have hsame : token.start = selections.span.start := by
    rw [← congrArg Span.start hspan]
    show token.start = cursor.offset
    rw [Cursor.offset, htoken]
  have hlength : 0 < Text.byteLength token.text := by
    cases htext : token.text with
    | nil => exact absurd htext hword
    | cons c rest =>
        rw [Text.byteLength_cons]
        have := c.utf8Size_pos
        omega
  have hwidth : token.span.stop = token.start + Text.byteLength token.text := rfl
  omega

theorem yields_typeSystemDefinition_namesKind (keyword : String) (about : Option String) :
    Yields (typeSystemDefinition keyword about) cursor fun it _ ↦ it.NamesKind := by
  unfold typeSystemDefinition
  split
  · exact .map fun _ _ _ ↦ trivial
  · exact .map fun _ _ _ ↦ trivial
  · split
    · exact .map fun _ _ _ ↦ trivial
    · exact .fail

theorem yields_extensionDefinition_namesKind :
    Yields extensionDefinition cursor fun it _ ↦ it.NamesKind := by
  refine .look rfl ?_
  split
  · exact .map fun _ _ _ ↦ trivial
  · split
    · exact .map fun _ _ _ ↦ trivial
    · exact .fail
  · exact .fail

/-- No operation begins with a description. -/
theorem yields_describedDefinition_namesKind (hcursor : cursor.Ordered) :
    Yields describedDefinition cursor fun it _ ↦ it.NamesKind := by
  refine .look rfl ?_
  split
  · exact .fail
  · exact .fail
  · exact .fail
  · exact .map fun _ _ _ ↦ trivial
  · refine .ite .fail (.ite ?_ .fail)
    exact reads_description.pass (.refl hcursor) fun about _ _ ↦
      yields_typeSystemDefinition_namesKind _ about

theorem yields_keywordDefinition_namesKind (hcursor : cursor.Ordered) {token : Token}
    (htoken : cursor.current? = some token) :
    Yields (keywordDefinition token.word) cursor fun it _ ↦ it.NamesKind := by
  unfold keywordDefinition
  split
  · next kind hkind =>
      have hword : token.text ≠ [] := by
        intro hnil
        rw [Token.word, hnil] at hkind
        cases hkind
      exact .map fun it after hread hspan ↦
        absurd hspan (yields_operation_apart kind hcursor htoken hword it after hread)
  · exact yields_extensionDefinition_namesKind
  · exact .map fun _ _ _ ↦ trivial
  · exact yields_typeSystemDefinition_namesKind _ none

theorem yields_shorthandQuery : Yields shorthandQuery cursor fun it _ ↦ it.kind = .query := by
  refine .look rfl fun it after hread ↦ ?_
  obtain ⟨⟨selections, middle⟩, -, hrest⟩ := bind_eq_ok_iff.mp hread
  cases hrest
  rfl

theorem yields_definition_namesKind (hcursor : cursor.Ordered) :
    Yields definition cursor fun it _ ↦ it.NamesKind := by
  refine .look rfl ?_
  cases htoken : cursor.current? with
  | none => exact .fail
  | some token =>
      simp only
      split
      · exact yields_describedDefinition_namesKind hcursor
      · exact yields_keywordDefinition_namesKind hcursor htoken
      · exact .map fun it after hread _ ↦ yields_shorthandQuery it after hread
      · exact .fail

end Grammar

/-- An operation that has been read from a selection set alone is a query. -/
theorem Document.kind_of_span_eq {text : String} {document : Document}
    (h : Document.read text = .ok document) {operation : Operation}
    (hmem : .operation operation ∈ document.definitions)
    (hspan : operation.span = operation.selections.span) : operation.kind = .query := by
  obtain ⟨cursor, hcursor, h⟩ := bind_eq_ok_iff.mp h
  obtain ⟨⟨definitions, after⟩, hread, h⟩ := bind_eq_ok_iff.mp h
  cases h
  have hordered := (Cursor.ordered_ofText hcursor).1
  have hall : Reading.Yields Grammar.definitions cursor fun items _ ↦
      ∀ it ∈ items, it.NamesKind :=
    .look rfl (.refuse (Reading.yields_many (Reading.reads_look fun _ ↦ ⟨_, rfl⟩)
      Grammar.reads_definition (fun _ h ↦ Grammar.yields_definition_namesKind h) hordered))
  exact hall definitions after hread (.operation operation) hmem hspan

end QueryLint.Language
