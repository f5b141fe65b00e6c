import QueryLint.Language.Grammar.Executable
import QueryLint.Proofs.Grammar.Value

/-!
# Ranges of selection sets, operations and fragments

What each reader of these reads is laid out in the text that it goes over.
-/

namespace QueryLint.Language.Grammar

open Reading

/-! ## Selections -/

theorem reads_fragmentName : Reads true fragmentName fun _ ↦ [] := by
  intro cursor hcursor
  refine (reads_atWord "on").pass (.refl hcursor) fun _ _ h ↦ .refuse ?_
  exact (reads_nameOr .fragmentName).last h

theorem reads_typeCondition : Reads true typeCondition fun it ↦ [.namedType it] := by
  intro cursor hcursor
  refine (reads_atWord "on").pass (.refl hcursor) fun _ _ h ↦ .require ?_
  exact reads_advance.pass h fun _ _ h ↦ (reads_namedType .typeCondition).last h

theorem reads_field {nested : Reading SelectionSet} (levels : Nat)
    (hnested : Reads true nested fun it ↦ [.selectionSet it]) :
    Reads true (field nested levels) fun it ↦ [.selection (.field it)] := by
  intro cursor hcursor
  refine .look rfl (.look rfl ?_)
  extract_lets +lift rest
  have hrest (aliasName : Option Name) {middle : Cursor} (h : cursor.Read false middle []) :
      Yields (rest aliasName) middle
        fun item after ↦ cursor.Read true after [.selection (.field item)] := by
    refine reads_name.pass h fun name _ h ↦ ?_
    refine (reads_arguments false levels).next h fun given _ h ↦ ?_
    refine (reads_directives false levels).next h fun used _ h ↦ .look rfl ?_
    refine hnested.optional h fun selections _ h ↦ ?_
    exact .look rfl (.pure (h.whole rfl rfl trivial))
  refine .ite ?_ (.look rfl (hrest none (.refl hcursor)))
  refine reads_name.pass (.refl hcursor) fun before _ h ↦ ?_
  exact reads_advance.pass h fun _ _ h ↦ .look rfl (hrest (some before) h.forget)

theorem reads_fragmentSpread (levels : Nat) :
    Reads true (fragmentSpread levels) fun it ↦ [.selection it] := by
  intro cursor hcursor
  refine .look rfl (reads_advance.pass (.refl hcursor) fun _ _ h ↦ ?_)
  refine reads_fragmentName.pass h fun name _ h ↦ ?_
  refine (reads_directives false levels).next h fun used _ h ↦ ?_
  exact .look rfl (.pure (h.whole rfl rfl trivial))

theorem reads_inlineFragment {nested : Reading SelectionSet} (levels : Nat)
    (hnested : Reads true nested fun it ↦ [.selectionSet it]) :
    Reads true (inlineFragment nested levels) fun it ↦ [.selection (.inline it)] := by
  intro cursor hcursor
  refine .look rfl (reads_advance.pass (.refl hcursor) fun _ _ h ↦ .look rfl ?_)
  refine reads_typeCondition.optional h fun condition _ h ↦ ?_
  refine (reads_directives false levels).next h fun used _ h ↦ .look rfl (.require ?_)
  refine hnested.next h fun selections _ h ↦ ?_
  exact .look rfl (.pure (h.whole rfl rfl trivial))

theorem reads_selection {nested : Reading SelectionSet} (levels : Nat)
    (hnested : Reads true nested fun it ↦ [.selectionSet it]) :
    Reads true (selection nested levels) fun it ↦ [.selection it] := by
  intro cursor hcursor
  refine .look rfl (.ite (.look rfl ?_) ?_)
  · have hinline := reads_inlineFragment levels hnested cursor hcursor
    split
    · exact .look rfl (.ite (.map hinline) (reads_fragmentSpread levels cursor hcursor))
    · exact .map hinline
    · exact .map hinline
    · exact .fail
  · exact .map (reads_field levels hnested cursor hcursor)

theorem reads_selectionSet (levels : Nat) :
    Reads true (selectionSet levels) fun it ↦ [.selectionSet it] := by
  induction levels with
  | zero =>
      intro cursor hcursor
      exact .look rfl (reads_advance.pass (.refl hcursor) fun _ _ _ ↦ .fail)
  | succ levels ih =>
      intro cursor hcursor
      refine .look rfl (reads_advance.pass (.refl hcursor) fun _ _ h ↦ .look rfl (.require ?_))
      have hitem := reads_selection levels ih
      refine (Reads.manyOf (reads_look fun _ ↦ ⟨_, rfl⟩) hitem).next h fun items _ h ↦ ?_
      refine (reads_close .brace).pass h fun _ _ h ↦ ?_
      exact .look rfl (.pure (h.whole rfl rfl trivial))

theorem reads_topSelectionSet : Reads true topSelectionSet fun it ↦ [.selectionSet it] :=
  fun cursor hcursor ↦ .look rfl (.require (reads_selectionSet nestingLimit cursor hcursor))

/-! ## Definitions -/

theorem reads_variableDefinition :
    Reads true variableDefinition fun it ↦ [.variableDefinition it] := by
  intro cursor hcursor
  refine .look rfl (reads_advance.pass (.refl hcursor) fun _ _ h ↦ ?_)
  have hname : Reads true name fun it ↦ [.declared it] :=
    .ofName .name (fun _ ↦ rfl) (fun _ ↦ rfl) fun _ _ ↦ trivial
  refine hname.next h fun name _ h ↦ ?_
  refine (reads_accept .colon).pass h fun colon _ h ↦ .require ?_
  refine reads_typeExpr.next h fun declared _ h ↦ ?_
  refine reads_default.next h fun preset _ h ↦ ?_
  refine (reads_directives true nestingLimit).next h fun used _ h ↦ ?_
  refine .look rfl (.pure (h.whole rfl ?_ trivial))
  simp [Construct.parts]

theorem reads_variableDefinitions :
    Reads false variableDefinitions fun items ↦ items.map .variableDefinition := by
  intro cursor hcursor
  refine (reads_accept .openParen).pass (.refl hcursor) fun opens _ h ↦ .ite ?_ (.pure h)
  refine .look rfl (.require ?_)
  refine (Reads.manyOf (reads_at .dollar) reads_variableDefinition).next h fun items _ h ↦ ?_
  exact (reads_close .paren).pass h fun _ _ h ↦ .pure h.mayTake

theorem reads_shorthandQuery :
    Reads true shorthandQuery fun it ↦ [.definition (.operation it)] := by
  intro cursor hcursor
  refine .look rfl (reads_topSelectionSet.next (.refl hcursor) fun selections _ h ↦ ?_)
  exact .look rfl (.pure (h.whole rfl rfl trivial))

theorem reads_operation (kind : OperationKind) :
    Reads true (operation kind) fun it ↦ [.definition (.operation it)] := by
  intro cursor hcursor
  refine .look rfl (reads_advance.pass (.refl hcursor) fun _ _ h ↦ .look rfl ?_)
  refine reads_name.passIf h fun operationName _ h ↦ ?_
  refine reads_variableDefinitions.next h fun declared _ h ↦ ?_
  refine (reads_directives false nestingLimit).next h fun used _ h ↦ ?_
  refine reads_topSelectionSet.next h fun selections _ h ↦ ?_
  exact .look rfl (.pure (h.whole rfl rfl trivial))

theorem reads_fragmentDefinition :
    Reads true fragmentDefinition fun it ↦ [.definition (.fragment it)] := by
  intro cursor hcursor
  refine .look rfl (reads_advance.pass (.refl hcursor) fun _ _ h ↦ ?_)
  refine reads_fragmentName.pass h fun name _ h ↦ ?_
  refine reads_typeCondition.next h fun condition _ h ↦ ?_
  refine (reads_directives false nestingLimit).next h fun used _ h ↦ ?_
  refine reads_topSelectionSet.next h fun selections _ h ↦ ?_
  exact .look rfl (.pure (h.whole rfl rfl trivial))

end QueryLint.Language.Grammar
