import QueryLint.Language.Grammar.TypeSystem
import QueryLint.Proofs.Grammar.Value

/-!
# The way through type system definitions

No ranges are kept of what these readers read. They move the cursor forward, so that what stands
after a type system definition is laid out behind what stands before it.
-/

namespace QueryLint.Language.Grammar

open Reading

/-! ## Members -/

theorem reads_description : Reads false description fun _ ↦ [] := by
  intro cursor hcursor
  refine .look rfl ?_
  split
  · refine .ite ?_ (.pure (.refl hcursor))
    exact reads_advance.pass (.refl hcursor) fun _ _ h ↦ .pure h
  · exact .pure (.refl hcursor)

theorem reads_atMember : Reads false atMember? fun _ ↦ [] := reads_look fun _ ↦ ⟨_, rfl⟩

theorem reads_inputValue : Reads false inputValue fun _ ↦ [] := by
  intro cursor hcursor
  refine reads_description.pass (.refl hcursor) fun about _ h ↦ ?_
  refine reads_name.pass h fun ownName _ h ↦ ?_
  refine (reads_accept .colon).pass h fun colon _ h ↦ .require ?_
  refine reads_typeExpr.forget.pass h fun declared _ h ↦ ?_
  refine reads_default.forget.pass h fun preset _ h ↦ ?_
  have htext : Reads false (preset.mapM fun given ↦ sourceText given.span) fun _ ↦ [] := by
    cases preset with
    | none => exact fun _ hcursor ↦ .pure (.refl hcursor)
    | some given => exact reads_look fun _ ↦ ⟨_, rfl⟩
  refine htext.pass h fun text _ h ↦ ?_
  exact (reads_directives true nestingLimit).forget.pass h fun used _ h ↦ .pure h.forget

/-- Between marks there are members. -/
theorem reads_members {α : Type} (problem : GrammarProblem) {item : Reading α}
    (hitem : Reads false item fun _ ↦ []) : Reads false (members problem item) fun _ ↦ [] := by
  intro cursor hcursor
  refine (reads_accept .openBrace).pass (.refl hcursor) fun opens _ h ↦ .ite ?_ (.pure h)
  refine reads_atMember.pass h fun starts _ h ↦ .require ?_
  refine (reads_atMember.many hitem).forget.pass h fun items _ h ↦ ?_
  exact (reads_close .brace).pass h fun _ _ h ↦ .pure h.forget

theorem reads_argumentDefinitions : Reads false argumentDefinitions fun _ ↦ [] := by
  intro cursor hcursor
  refine (reads_accept .openParen).pass (.refl hcursor) fun opens _ h ↦ .ite ?_ (.pure h)
  refine reads_atMember.pass h fun starts _ h ↦ .require ?_
  refine (reads_atMember.many reads_inputValue).forget.pass h fun items _ h ↦ ?_
  exact (reads_close .paren).pass h fun _ _ h ↦ .pure h.forget

theorem reads_fieldDefinition : Reads false fieldDefinition fun _ ↦ [] := by
  intro cursor hcursor
  refine reads_description.pass (.refl hcursor) fun about _ h ↦ ?_
  refine reads_name.pass h fun ownName _ h ↦ ?_
  refine reads_argumentDefinitions.pass h fun parameters _ h ↦ ?_
  refine (reads_accept .colon).pass h fun colon _ h ↦ .require ?_
  refine reads_typeExpr.forget.pass h fun declared _ h ↦ ?_
  exact (reads_directives true nestingLimit).forget.pass h fun used _ h ↦ .pure h.forget

theorem reads_enumValueDefinition : Reads false enumValueDefinition fun _ ↦ [] := by
  intro cursor hcursor
  refine reads_description.pass (.refl hcursor) fun about _ h ↦ ?_
  refine reads_currentName.pass h fun word _ h ↦ .refuse ?_
  refine (reads_nameOr .enumValue).pass h fun ownName _ h ↦ ?_
  exact (reads_directives true nestingLimit).forget.pass h fun used _ h ↦ .pure h.forget

theorem reads_interfaces (keyword : TypeKeyword) : Reads false keyword.interfaces fun _ ↦ [] := by
  have hall : Reads false interfaces fun _ ↦ [] := by
    intro cursor hcursor
    refine (reads_atWord "implements").pass (.refl hcursor) fun _ _ h ↦ .ite ?_ (.pure h)
    exact reads_advance.pass h fun _ _ h ↦ (reads_separated (reads_nameOr .interfaceName)).last h
  cases keyword with
  | object | interface => exact hall
  | scalar | union | enum | input => exact fun _ hcursor ↦ .pure (.refl hcursor)

theorem reads_body (implemented : List Name) (keyword : TypeKeyword) :
    Reads false (keyword.body implemented) fun _ ↦ [] := by
  intro cursor hcursor
  cases keyword with
  | scalar => exact .pure (.refl hcursor)
  | object => exact .map (reads_members _ reads_fieldDefinition cursor hcursor)
  | interface => exact .map (reads_members _ reads_fieldDefinition cursor hcursor)
  | union =>
      refine (reads_accept .equals).pass (.refl hcursor) fun _ _ h ↦ .ite (.map ?_) (.pure h)
      exact (reads_separated (reads_nameOr .unionMember)).last h
  | enum => exact .map (reads_members _ reads_enumValueDefinition cursor hcursor)
  | input => exact .map (reads_members _ reads_inputValue cursor hcursor)

/-! ## Types -/

theorem reads_typeDefinition (keyword : TypeKeyword) (about : Option String) :
    Reads false (typeDefinition keyword about) fun _ ↦ [] := by
  intro cursor hcursor
  refine reads_advance.pass (.refl hcursor) fun _ _ h ↦ ?_
  refine (reads_nameOr _).pass h fun ownName _ h ↦ ?_
  refine (reads_interfaces keyword).pass h fun implemented _ h ↦ ?_
  refine (reads_directives true nestingLimit).forget.pass h fun used _ h ↦ ?_
  exact (reads_body implemented keyword).pass h fun body _ h ↦ .pure h.forget

theorem reads_typeExtension (keyword : TypeKeyword) :
    Reads false (typeExtension keyword) fun _ ↦ [] := by
  intro cursor hcursor
  refine reads_advance.pass (.refl hcursor) fun _ _ h ↦ ?_
  refine reads_advance.pass h fun _ _ h ↦ ?_
  refine reads_name.pass h fun ownName _ h ↦ ?_
  refine (reads_interfaces keyword).pass h fun implemented _ h ↦ ?_
  refine (reads_directives true nestingLimit).forget.pass h fun used _ h ↦ ?_
  exact (reads_body implemented keyword).pass h fun body _ h ↦ .refuse (.pure h.forget)

/-! ## Schemas -/

theorem reads_rootDefinition : Reads false rootDefinition fun _ ↦ [] := by
  intro cursor hcursor
  refine reads_currentName.pass (.refl hcursor) fun word _ h ↦ ?_
  split
  · exact .fail
  · refine reads_advance.pass h fun _ _ h ↦ ?_
    refine (reads_accept .colon).pass h fun colon _ h ↦ .require (.look rfl ?_)
    exact reads_name.passIf h fun type _ h ↦ .pure h

theorem reads_rootDefinitions (mayBeEmpty : Bool) :
    Reads false (rootDefinitions mayBeEmpty) fun _ ↦ [] := by
  intro cursor hcursor
  refine (reads_accept .openBrace).pass (.refl hcursor) fun opens _ h ↦ .ite ?_ (.pure h)
  refine (reads_at .name).pass h fun starts _ h ↦ .require ?_
  refine ((reads_at .name).many reads_rootDefinition).forget.pass h fun items _ h ↦ ?_
  exact (reads_close .brace).pass h fun _ _ h ↦ .pure h.forget

theorem reads_schemaDefinition : Reads false schemaDefinition fun _ ↦ [] := by
  intro cursor hcursor
  refine reads_advance.pass (.refl hcursor) fun _ _ h ↦ ?_
  refine (reads_directives true nestingLimit).forget.pass h fun used _ h ↦ ?_
  exact (reads_rootDefinitions false).pass h fun roots _ h ↦ .pure h

theorem reads_schemaExtension : Reads false schemaExtension fun _ ↦ [] := by
  intro cursor hcursor
  refine reads_advance.pass (.refl hcursor) fun _ _ h ↦ ?_
  refine reads_advance.pass h fun _ _ h ↦ ?_
  refine (reads_directives true nestingLimit).forget.pass h fun used _ h ↦ ?_
  exact (reads_rootDefinitions true).pass h fun roots _ h ↦ .refuse (.pure h)

/-! ## Directives -/

theorem reads_directiveLocation : Reads true directiveLocation fun _ ↦ [] := by
  intro cursor hcursor
  refine reads_currentName.pass (.refl hcursor) fun word _ h ↦ .refuse ?_
  exact (reads_nameOr .directiveLocation).last h

theorem reads_directiveDefinition (about : Option String) :
    Reads false (directiveDefinition about) fun _ ↦ [] := by
  intro cursor hcursor
  refine reads_advance.pass (.refl hcursor) fun _ _ h ↦ ?_
  refine (reads_accept .atSign).pass h fun sign _ h ↦ .require ?_
  refine reads_name.pass h fun ownName _ h ↦ ?_
  refine reads_argumentDefinitions.pass h fun parameters _ h ↦ ?_
  refine (reads_atWord "repeatable").pass h fun repeatable _ h ↦ ?_
  refine reads_advance.passWhen h fun _ h ↦ ?_
  refine (reads_atWord "on").pass h fun _ _ h ↦ .require ?_
  refine reads_advance.pass h fun _ _ h ↦ .look rfl (.require ?_)
  exact (reads_separated reads_directiveLocation).pass h fun places _ h ↦ .pure h.forget

end QueryLint.Language.Grammar
