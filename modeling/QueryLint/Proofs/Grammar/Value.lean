import QueryLint.Language.Grammar.Value
import QueryLint.Proofs.Grammar.Reading

/-!
# Ranges of values, types, arguments and directives

What each reader of these reads is laid out in the text that it goes over.
-/

namespace QueryLint.Language.Grammar

open Reading

/-! ## Types -/

theorem reads_typeExprWith {item : Reading TypeExpr} (hitem : Reads true item fun it ↦ [.type it])
    (problem : GrammarProblem) : Reads true (typeExprWith item problem) fun it ↦ [.type it] := by
  intro cursor hcursor
  refine .look rfl ?_
  split
  · refine reads_advance.pass (.refl hcursor) fun _ _ h ↦ ?_
    refine hitem.next h fun inner _ h ↦ ?_
    refine (reads_close .bracket).pass h fun _ _ h ↦ ?_
    exact (reads_accept .bang).pass h fun required _ h ↦ .pure (h.around rfl rfl)
  · refine (reads_namedType .name).next (.refl hcursor) fun inner _ h ↦ ?_
    exact (reads_accept .bang).pass h fun required _ h ↦ .pure (h.around rfl rfl)
  · exact .fail

theorem reads_itemType (levels : Nat) : Reads true (itemType levels) fun it ↦ [.type it] := by
  induction levels with
  | zero => exact fun _ _ ↦ .fail
  | succ levels ih => exact reads_typeExprWith ih .itemType

theorem reads_typeExpr : Reads true typeExpr fun it ↦ [.type it] :=
  reads_typeExprWith (reads_itemType nestingLimit) .typeExpr

/-! ## Values -/

theorem wordValue_span (word : Name) :
    (Construct.value (wordValue word)).span? = some word.span := by
  unfold wordValue
  split <;> rfl

theorem wordValue_parts (word : Name) : (Construct.value (wordValue word)).parts = [] := by
  unfold wordValue
  split <;> rfl

/-- A literal has the range that is read. -/
theorem yields_literal {make : Span → String → Value} {cursor : Cursor} (hcursor : cursor.Ordered)
    (htoken : cursor.current?.isSome)
    (hspan : ∀ span text, (Construct.value (make span text)).span? = some span)
    (hparts : ∀ span text, (Construct.value (make span text)).parts = []) :
    Yields (literal make) cursor fun item after ↦ cursor.Read true after [.value item] := by
  refine .look rfl (.look rfl ?_)
  refine .bind (yields_advance_of_isSome hcursor htoken) fun _ after h ↦ .look rfl (.pure ?_)
  exact h.whole (hspan _ _) (hparts _ _) trivial

theorem reads_objectField {nested : Reading Value}
    (hnested : Reads true nested fun it ↦ [.value it]) :
    Reads true (objectField nested) fun it ↦ [.objectField it] := by
  intro cursor hcursor
  refine .look rfl ?_
  refine reads_name.pass (.refl hcursor) fun field _ h ↦ ?_
  refine (reads_accept .colon).pass h fun colon _ h ↦ ?_
  refine hnested.optional h fun value _ h ↦ ?_
  exact .look rfl (.pure (h.whole rfl rfl trivial))

theorem reads_valueWith (constant : Bool) {nested : Reading Value}
    (hnested : Reads true nested fun it ↦ [.value it]) :
    Reads true (valueWith constant nested) fun it ↦ [.value it] := by
  intro cursor hcursor
  have htoken {kind : TokenKind} (h : cursor.current?.map Token.kind = some kind) :
      cursor.current?.isSome := by
    rw [← Option.isSome_map, h]
    rfl
  refine .look rfl (.look rfl ?_)
  split
  · next hkind =>
      -- The range of a variable is that of its name.
      refine .ite .fail ?_
      refine .bind (yields_advance_of_isSome hcursor (htoken hkind)) fun _ _ h ↦ ?_
      refine .bind (yields_nameOr .name h.ordered) fun name after ⟨hspan, hname⟩ ↦ ?_
      refine .look rfl (.pure (h.trans (hname.whole (hspan ▸ rfl) rfl trivial)))
  · next hkind => exact yields_literal hcursor (htoken hkind) (fun _ _ ↦ rfl) fun _ _ ↦ rfl
  · next hkind => exact yields_literal hcursor (htoken hkind) (fun _ _ ↦ rfl) fun _ _ ↦ rfl
  · next hkind => exact yields_literal hcursor (htoken hkind) (fun _ _ ↦ rfl) fun _ _ ↦ rfl
  · refine .bind (yields_nameOr .name hcursor) fun word after ⟨hspan, h⟩ ↦ .pure ?_
    exact h.whole (hspan ▸ wordValue_span word) (wordValue_parts word) trivial
  · next hkind =>
      -- The closing bracket may be missing, so it is the opening one that is taken for sure.
      refine .bind (yields_advance_of_isSome hcursor (htoken hkind)) fun _ _ h ↦ ?_
      refine (Reads.manyOf (reads_look fun _ ↦ ⟨_, rfl⟩) hnested).next h fun items _ h ↦ ?_
      refine (reads_accept .closeBracket).pass h fun _ _ h ↦ .look rfl (.pure ?_)
      exact h.whole rfl rfl trivial
  · refine reads_advance.pass (.refl hcursor) fun _ _ h ↦ ?_
    refine (Reads.manyOf (reads_at .name) (reads_objectField hnested)).next h fun fields _ h ↦ ?_
    refine (reads_close .brace).pass h fun _ _ h ↦ .look rfl (.pure ?_)
    exact h.whole rfl rfl trivial
  · exact .fail

theorem reads_value (constant : Bool) (levels : Nat) :
    Reads true (value constant levels) fun it ↦ [.value it] := by
  have hnested : Reads true (nestedValue constant levels) fun it ↦ [.value it] := by
    induction levels with
    | zero => exact fun _ _ ↦ .fail
    | succ levels ih => exact reads_valueWith constant ih
  exact reads_valueWith constant hnested

theorem reads_default : Reads false Grammar.default fun it ↦ it.toList.map .value := by
  intro cursor hcursor
  refine (reads_accept .equals).pass (.refl hcursor) fun equals _ h ↦ .ite ?_ (.pure h)
  exact .map ((reads_value true nestingLimit).mayTake.last h)

/-! ## Arguments and directives -/

theorem reads_argument (constant : Bool) (levels : Nat) :
    Reads true (argument constant levels) fun it ↦ [.argument it] := by
  intro cursor hcursor
  refine .look rfl (reads_name.pass (.refl hcursor) fun name _ h ↦ ?_)
  refine (reads_accept .colon).pass h fun colon _ h ↦ ?_
  refine (reads_value constant levels).optional h fun given _ h ↦ ?_
  exact .look rfl (.pure (h.whole rfl rfl trivial))

theorem reads_arguments (constant : Bool) (levels : Nat) :
    Reads false (arguments constant levels) fun items ↦ items.map .argument := by
  intro cursor hcursor
  refine (reads_accept .openParen).pass (.refl hcursor) fun opens _ h ↦ .ite ?_ (.pure h)
  refine .look rfl (.require ?_)
  refine (Reads.manyOf (reads_at .name) (reads_argument constant levels)).next h fun items _ h ↦ ?_
  exact (reads_close .paren).pass h fun _ _ h ↦ .pure h.mayTake

theorem reads_directive (constant : Bool) (levels : Nat) :
    Reads true (directive constant levels) fun it ↦ [.directive it] := by
  intro cursor hcursor
  refine .look rfl (reads_advance.pass (.refl hcursor) fun _ _ h ↦ ?_)
  refine reads_name.pass h fun name _ h ↦ ?_
  refine (reads_arguments constant levels).next h fun given _ h ↦ ?_
  exact .look rfl (.pure (h.whole rfl rfl trivial))

theorem reads_directives (constant : Bool) (levels : Nat) :
    Reads false (directives constant levels) fun items ↦ items.map .directive :=
  .manyOf (reads_at .atSign) (reads_directive constant levels)

end QueryLint.Language.Grammar
