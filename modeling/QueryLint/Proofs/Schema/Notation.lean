import QueryLint.Language.Grammar.Document
import QueryLint.Proofs.Grammar.Tokens
import QueryLint.Schema.TypeRef

/-!
# The notation of type references

Main statement: `TypeRef.render_readable`. What a reference is rendered as can be read in one way. A
reference without a non-null layer directly around another is what its notation is read as, and these
are the references that written types stand for.

`TypeRef.spelling` lists the tokens of the notation. The text is split into them
(`TypeRef.listFrom_render`), they tell the reference (`TypeRef.eq_of_spelling_eq`), and readers of
types take them one by one, whether a reader that succeeds is followed (`Grammar.takes_itemType`) or
one has to (`Grammar.succeeds_typeExprWith`).
-/

namespace QueryLint

open QueryLint.Language

/-- The mark behind a type that is required. -/
def bangIf (required : Bool) : List (TokenKind × List Char) :=
  if required then [(.bang, ['!'])] else []

namespace TypeRef

/-! ## The tokens of a reference -/

/-- The tokens of the notation of a reference. -/
def spelling : TypeRef → List (TokenKind × List Char)
  | named name => [(.name, name.toList)]
  | list item => (.openBracket, ['[']) :: (item.spelling ++ [(.closeBracket, [']'])])
  | nonNull inner => inner.spelling ++ [(.bang, ['!'])]

theorem spelling_requiredIf (required : Bool) (type : TypeRef) :
    (type.requiredIf required).spelling = type.spelling ++ bangIf required := by
  cases required with
  | true => rfl
  | false => exact (List.append_nil _).symm

theorem toList_render (type : TypeRef) : type.render.toList = type.spelling.flatMap Prod.snd := by
  induction type with
  | named name => simp [render, spelling]
  | list item ih => simp [render, spelling, ih]
  | nonNull inner ih => simp [render, spelling, ih]

/-- There are no commas in the notation. -/
theorem spelling_counts {type : TypeRef} {word : TokenKind × List Char} (h : word ∈ type.spelling) :
    word.1 ≠ .comma := by
  induction type with
  | named name =>
      obtain rfl := List.mem_singleton.mp h
      nofun
  | list item ih =>
      rcases List.mem_cons.mp h with rfl | h
      · nofun
      · rcases List.mem_append.mp h with h | h
        · exact ih h
        · obtain rfl := List.mem_singleton.mp h
          nofun
  | nonNull inner ih =>
      rcases List.mem_append.mp h with h | h
      · exact ih h
      · obtain rfl := List.mem_singleton.mp h
        nofun

/-- The last token of the notation tells the outermost layer. -/
def lastWord : TypeRef → TokenKind × List Char
  | named name => (.name, name.toList)
  | list _ => (.closeBracket, [']'])
  | nonNull _ => (.bang, ['!'])

theorem exists_spelling_eq (type : TypeRef) : ∃ front, type.spelling = front ++ [type.lastWord] := by
  cases type with
  | named name => exact ⟨[], rfl⟩
  | list item => exact ⟨(.openBracket, ['[']) :: item.spelling, rfl⟩
  | nonNull inner => exact ⟨inner.spelling, rfl⟩

theorem lastWord_eq {type other : TypeRef} (h : type.spelling = other.spelling) :
    type.lastWord = other.lastWord := by
  obtain ⟨front, hfront⟩ := type.exists_spelling_eq
  obtain ⟨otherFront, hother⟩ := other.exists_spelling_eq
  rw [hfront, hother] at h
  exact (List.cons.inj (List.append_inj' h rfl).2).1

/-- The tokens tell the reference. -/
theorem eq_of_spelling_eq {type other : TypeRef} (h : type.spelling = other.spelling) :
    type = other := by
  induction type generalizing other with
  | named name =>
      cases other with
      | named other => rw [String.toList_inj.mp (Prod.mk.inj (lastWord_eq h)).2]
      | list | nonNull => cases lastWord_eq h
  | list item ih =>
      cases other with
      | list other => rw [ih (List.append_cancel_right (List.cons.inj h).2)]
      | named | nonNull => cases lastWord_eq h
  | nonNull inner ih =>
      cases other with
      | nonNull other => rw [ih (List.append_cancel_right h)]
      | named | list => cases lastWord_eq h

/-! ## References that can be written -/

/-- No layer of non-null stands directly around another. -/
def Writable : TypeRef → Prop
  | named _ => True
  | list item => item.Writable
  | nonNull inner => (∀ core, inner ≠ nonNull core) ∧ inner.Writable

/-- The number of list layers. -/
def lists : TypeRef → Nat
  | named _ => 0
  | list item => item.lists + 1
  | nonNull inner => inner.lists

@[simp] theorem lists_requiredIf (required : Bool) (type : TypeRef) :
    (type.requiredIf required).lists = type.lists := by
  cases required <;> rfl

theorem writable_ofExpr (expr : TypeExpr) : (ofExpr expr).Writable := by
  induction expr with
  | named name required => cases required <;> simp [ofExpr, requiredIf, Writable]
  | list item required ih => cases required <;> simp [ofExpr, requiredIf, Writable, ih]

theorem exists_ofExpr_eq {type : TypeRef} (h : type.Writable) : ∃ expr, ofExpr expr = type := by
  induction type with
  | named name => exact ⟨.named ⟨name, default⟩ false, rfl⟩
  | list item ih =>
      obtain ⟨expr, rfl⟩ := ih h
      exact ⟨.list expr false, rfl⟩
  | nonNull inner ih =>
      obtain ⟨expr, rfl⟩ := ih h.2
      -- The mark of the inner type is free, as the reference has no second non-null layer.
      cases expr with
      | named name required =>
          cases required with
          | true => exact absurd rfl (h.1 _)
          | false => exact ⟨.named name true, rfl⟩
      | list item required =>
          cases required with
          | true => exact absurd rfl (h.1 _)
          | false => exact ⟨.list item true, rfl⟩

/-! ## Splitting the notation -/

/-- The notation is split into its tokens where no character behind it goes on with a name. -/
theorem listFrom_render (type : TypeRef) (hname : IsName type.name.toList) (offset : Nat)
    (rest : List Char) (hrest : ∀ c, rest.head? = some c → Scan.isNameChar c = false) :
    ∃ (tokens : List Token) (later : Nat), tokens.map Token.spelling = type.spelling ∧
      Lexeme.listFrom offset 0 (type.render.toList ++ rest) =
        tokens.map Lexeme.token ++ Lexeme.listFrom later 0 rest := by
  -- A name inside has a bracket or a mark behind it, so what follows is left open.
  induction type generalizing offset rest with
  | named name => exact ⟨[_], _, rfl, Lexeme.listFrom_name hname hrest offset⟩
  | list item ih =>
      have hclose : ∀ c, (']' :: rest).head? = some c → Scan.isNameChar c = false := by
        rintro c ⟨⟩
        decide
      obtain ⟨tokens, later, hspelling, hlist⟩ :=
        ih hname (offset + Text.byteLength ['[']) (']' :: rest) hclose
      have htext : (list item).render.toList ++ rest =
          '[' :: (item.render.toList ++ ']' :: rest) := by
        simp [render]
      refine ⟨⟨.openBracket, ['['], offset⟩ :: (tokens ++ [⟨.closeBracket, [']'], later⟩]),
        later + Text.byteLength [']'], ?_, ?_⟩
      · simp [hspelling, spelling, Token.spelling]
      · have hopen : TokenKind.openBracket.mark? = some '[' := rfl
        have hshut : TokenKind.closeBracket.mark? = some ']' := rfl
        rw [htext, Lexeme.listFrom_mark hopen, hlist, Lexeme.listFrom_mark hshut]
        simp
  | nonNull inner ih =>
      have hbang : ∀ c, ('!' :: rest).head? = some c → Scan.isNameChar c = false := by
        rintro c ⟨⟩
        decide
      obtain ⟨tokens, later, hspelling, hlist⟩ := ih hname offset ('!' :: rest) hbang
      have htext : (nonNull inner).render.toList ++ rest =
          inner.render.toList ++ '!' :: rest := by
        simp [render]
      refine ⟨tokens ++ [⟨.bang, ['!'], later⟩], later + Text.byteLength ['!'], ?_, ?_⟩
      · simp [hspelling, spelling, Token.spelling]
      · have hmark : TokenKind.bang.mark? = some '!' := rfl
        rw [htext, hlist, Lexeme.listFrom_mark hmark]
        simp

theorem ofText_render {type : TypeRef} (hname : IsName type.name.toList) :
    ∃ tokens : List Token, tokens.map Token.spelling = type.spelling ∧
      Lexeme.ofText type.render.toList = tokens.map Lexeme.token := by
  obtain ⟨tokens, later, hspelling, hlist⟩ := type.listFrom_render hname 0 [] nofun
  refine ⟨tokens, hspelling, ?_⟩
  simpa [Lexeme.ofText, Lexeme.listFrom] using hlist

/-- References that are rendered alike are the same. -/
theorem eq_of_render_eq {type other : TypeRef} (hname : IsName type.name.toList)
    (hother : IsName other.name.toList) (h : type.render = other.render) : type = other := by
  obtain ⟨tokens, hspelling, htokens⟩ := ofText_render hname
  obtain ⟨others, hotherSpelling, hothers⟩ := ofText_render hother
  have hsame : tokens.map Lexeme.token = others.map Lexeme.token := by
    rw [← htokens, ← hothers, h]
  obtain rfl : tokens = others :=
    List.map_injective_iff.mpr (fun _ _ ↦ Lexeme.token.inj) hsame
  exact eq_of_spelling_eq (hspelling.symm.trans hotherSpelling)

/-- At the beginning of the notation its tokens are ahead. -/
theorem offers_ofText {type : TypeRef} (hname : IsName type.name.toList) :
    ∃ cursor, Cursor.ofText type.render.toList = .ok cursor ∧ cursor.Offers type.spelling := by
  obtain ⟨tokens, hspelling, htokens⟩ := ofText_render hname
  have hcounts : ∀ word ∈ type.spelling, word.1 ≠ .comma := fun _ hword ↦ spelling_counts hword
  have hsettle : Cursor.settle (Lexeme.ofText type.render.toList) =
      .ok (tokens.map Lexeme.token) := by
    rw [htokens]
    refine Cursor.settle_tokens fun token htoken ↦ hcounts token.spelling ?_
    rw [← hspelling]
    exact List.mem_map_of_mem htoken
  refine ⟨_, bind_eq_ok_iff.mpr ⟨_, hsettle, rfl⟩, ⟨tokens, hspelling, rfl⟩, hcounts⟩

end TypeRef

namespace Language.Grammar

open Reading TypeRef

/-! ## Readers of types that succeed -/

/-- The reader takes the tokens of the type that it gives. -/
def TakesType (reading : Reading TypeExpr) : Prop :=
  ∀ cursor, cursor.OnText →
    Yields reading cursor fun expr after ↦ cursor.Takes after (ofExpr expr).spelling

theorem takes_bang {cursor : Cursor} (h : cursor.OnText) :
    Yields (accept .bang) cursor fun found after ↦ cursor.Takes after (bangIf found) :=
  takes_accept h rfl nofun

theorem takes_typeExprWith {item : Reading TypeExpr} (hitem : TakesType item)
    (problem : GrammarProblem) : TakesType (typeExprWith item problem) := by
  intro cursor hcursor
  have hlook : currentKind cursor = .ok (cursor.current?.map Token.kind, cursor) := rfl
  refine .look hlook ?_
  split
  · next hkind =>
      obtain ⟨token, htoken, hkind⟩ := Option.map_eq_some_iff.mp hkind
      have hmark : TokenKind.openBracket.mark? = some '[' := rfl
      refine (takes_advance_mark hcursor hmark nofun htoken hkind).bind fun _ _ hopen ↦ ?_
      have htext := hopen.onText hcursor
      refine (hitem _ htext).bind fun inner _ hinner ↦ ?_
      have htext := hinner.onText htext
      refine (takes_close htext .bracket rfl).bind fun _ _ hclose ↦ ?_
      have htext := hclose.onText htext
      refine (takes_bang htext).bind fun required _ hbang ↦ .pure ?_
      have hall := hopen.trans (hinner.trans (hclose.trans hbang))
      rw [ofExpr, spelling_requiredIf]
      simpa [spelling, closingKind] using hall
  · refine (takes_nameOr .name).bind fun name _ hname ↦ ?_
    refine (takes_bang (hname.onText hcursor)).bind fun required _ hbang ↦ .pure ?_
    rw [ofExpr, spelling_requiredIf]
    exact hname.trans hbang
  · exact .fail

theorem takes_itemType (levels : Nat) : TakesType (itemType levels) := by
  induction levels with
  | zero => exact fun _ _ ↦ .fail
  | succ levels ih => exact takes_typeExprWith ih .itemType

/-! ## Readers of types that have to succeed -/

/-- A reader of types succeeds on the tokens of a type and takes no more than these. -/
theorem succeeds_typeExprWith (expr : TypeExpr) {levels : Nat}
    (hlevels : (ofExpr expr).lists ≤ levels) (problem : GrammarProblem) {cursor : Cursor}
    {more : List (TokenKind × List Char)} (h : cursor.Offers ((ofExpr expr).spelling ++ more))
    (hmore : more.head?.map Prod.fst ≠ some .bang) :
    Succeeds (typeExprWith (itemType levels) problem) cursor fun found after ↦
      ofExpr found = ofExpr expr ∧ after.Offers more := by
  -- Behind the item of a list there is its bracket, so what is left over is not fixed.
  induction expr generalizing levels problem cursor more with
  | named name required =>
      rw [ofExpr, spelling_requiredIf, List.append_assoc] at h
      refine .look (currentKind_of_offers h) ?_
      refine (succeeds_nameOr .name h).bind fun word _ hword ↦ ?_
      refine (succeeds_accept hword.2 hmore).bind fun found _ hfound ↦ .pure ⟨?_, hfound.2⟩
      rw [ofExpr, ofExpr, hword.1, String.ofList_toList, hfound.1]
  | list item required ih =>
      rw [ofExpr, lists_requiredIf, lists] at hlevels
      obtain ⟨levels, rfl⟩ := Nat.exists_eq_add_of_lt hlevels
      rw [ofExpr, spelling_requiredIf, spelling] at h
      simp only [List.cons_append, List.append_assoc, List.nil_append] at h
      refine .look (currentKind_of_offers h) ?_
      refine (succeeds_advance h).bind fun _ _ hopen ↦ ?_
      refine (ih (Nat.le_add_right _ levels) .itemType hopen (by simp)).bind fun inner _ hinner ↦ ?_
      have hclose : Succeeds (close .bracket) _ fun _ after ↦ after.Offers (bangIf required ++ more) :=
        succeeds_close hinner.2
      refine hclose.bind fun _ _ hclose ↦ ?_
      refine (succeeds_accept hclose hmore).bind fun found _ hfound ↦ .pure ⟨?_, hfound.2⟩
      rw [ofExpr, ofExpr, hinner.1, hfound.1]

end Language.Grammar

namespace TypeRef

open Language.Grammar

variable {type : TypeRef}

/-- The notation of a reference that can be written is read as the reference, if lists may nest as
deeply as they do in it. -/
theorem exists_typeExprWith_render (hname : IsName type.name.toList) (hwritable : type.Writable)
    {levels : Nat} (hlevels : type.lists ≤ levels) (problem : GrammarProblem) :
    ∃ cursor expr after, Cursor.ofText type.render.toList = .ok cursor ∧
      typeExprWith (itemType levels) problem cursor = .ok (expr, after) ∧ after.ahead = [] ∧
        ofExpr expr = type := by
  obtain ⟨cursor, hcursor, hoffers⟩ := offers_ofText hname
  obtain ⟨written, rfl⟩ := exists_ofExpr_eq hwritable
  rw [← List.append_nil (ofExpr written).spelling] at hoffers
  obtain ⟨expr, after, hread, hexpr, hafter⟩ :=
    succeeds_typeExprWith written hlevels problem hoffers nofun
  exact ⟨cursor, expr, after, hcursor, hread, hafter.ahead_eq_nil, hexpr⟩

theorem exists_read_render (hname : IsName type.name.toList) (hwritable : type.Writable)
    (hlists : type.lists ≤ nestingLimit) :
    ∃ expr, TypeExpr.read type.render = .ok expr ∧ ofExpr expr = type := by
  obtain ⟨cursor, expr, after, hcursor, hread, -, hexpr⟩ :=
    exists_typeExprWith_render hname hwritable hlists .typeExpr
  exact ⟨expr, bind_eq_ok_iff.mpr ⟨cursor, hcursor, bind_eq_ok_iff.mpr ⟨_, hread, rfl⟩⟩, hexpr⟩

/-- A written type is the notation of the reference that it stands for, token by token. -/
theorem render_of_typeExprWith {levels : Nat} {problem : GrammarProblem} {cursor after : Cursor}
    {expr : TypeExpr} (hcursor : cursor.OnText)
    (h : typeExprWith (itemType levels) problem cursor = .ok (expr, after)) :
    ∃ tokens : List Token, cursor.counting = tokens.map Lexeme.token ++ after.counting ∧
      (ofExpr expr).render.toList =
        tokens.flatMap fun token ↦ Text.slice token.span cursor.source := by
  have htakes := takes_typeExprWith (takes_itemType levels) problem cursor hcursor expr after h
  obtain ⟨tokens, hspelling, hcounting⟩ := htakes.tokens
  refine ⟨tokens, hcounting, ?_⟩
  rw [toList_render, ← hspelling, List.flatMap_map]
  refine List.flatMap_congr fun token htoken ↦ ?_
  have hmem : Lexeme.token token ∈ cursor.counting := by
    rw [hcounting]
    exact List.mem_append_left _ (List.mem_map_of_mem htoken)
  exact (Lexeme.scanned_of_mem_ofText (hcursor.mem (List.mem_filter.mp hmem).1)).slice_span.symm

/-- References with names of the language are told by their notation. If no layer of non-null stands
directly around another, the notation is read as the reference: in general where lists may nest as
deeply as they do in it, and so within the limit that readers have. What is read at any place of a
text as a type stands for a reference without such layers, and its tokens, with their characters, are
the notation of the reference. -/
theorem render_readable :
    (∀ type other : TypeRef, IsName type.name.toList → IsName other.name.toList →
      type.render = other.render → type = other) ∧
    (∀ type : TypeRef, IsName type.name.toList → type.Writable → ∀ levels, type.lists ≤ levels →
      ∀ problem, ∃ cursor expr after, Cursor.ofText type.render.toList = .ok cursor ∧
        typeExprWith (itemType levels) problem cursor = .ok (expr, after) ∧ after.ahead = [] ∧
          ofExpr expr = type) ∧
    (∀ type : TypeRef, IsName type.name.toList → type.Writable → type.lists ≤ nestingLimit →
      ∃ expr, TypeExpr.read type.render = .ok expr ∧ ofExpr expr = type) ∧
    ∀ levels problem cursor expr after, cursor.OnText →
      typeExprWith (itemType levels) problem cursor = .ok (expr, after) →
        (ofExpr expr).Writable ∧ ∃ tokens : List Token,
          cursor.counting = tokens.map Lexeme.token ++ after.counting ∧
            (ofExpr expr).render.toList =
              tokens.flatMap fun token ↦ Text.slice token.span cursor.source := by
  refine ⟨fun _ _ ↦ eq_of_render_eq, ?_, fun _ ↦ exists_read_render, ?_⟩
  · exact fun type hname hwritable levels hlevels problem ↦
      exists_typeExprWith_render hname hwritable hlevels problem
  · exact fun levels problem cursor expr after hcursor hread ↦
      ⟨writable_ofExpr expr, render_of_typeExprWith hcursor hread⟩

/-- Two non-null layers against one, a reference of four layers, and a type with blanks and a comma
between its tokens. -/
theorem render_readable_layered :
    (nonNull (nonNull (named "ID"))).render ≠ (nonNull (named "ID")).render ∧
      (∃ expr, TypeExpr.read "[[User!]]!" = .ok expr ∧
        ofExpr expr = nonNull (list (list (nonNull (named "User"))))) ∧
      ∃ cursor expr after, Cursor.ofText "[ User ,! ]".toList = .ok cursor ∧
        typeExpr cursor = .ok (expr, after) ∧ (ofExpr expr).render = "[User!]" ∧
          (ofExpr expr).Writable ∧ ∃ tokens : List Token,
            cursor.counting = tokens.map Lexeme.token ++ after.counting ∧
              (ofExpr expr).render.toList =
                tokens.flatMap fun token ↦ Text.slice token.span cursor.source := by
  obtain ⟨hinjective, -, hread, htokens⟩ := render_readable
  have hid : IsName "ID".toList :=
    ⟨'I', ['D'], by decide, by decide, List.all_eq_true.mp (by decide)⟩
  have huser : IsName "User".toList :=
    ⟨'U', "ser".toList, by decide, by decide, List.all_eq_true.mp (by decide)⟩
  refine ⟨fun h ↦ ?_, ?_, ?_⟩
  · have hsame := hinjective (nonNull (nonNull (named "ID"))) (nonNull (named "ID")) hid hid h
    cases hsame
  · exact hread (nonNull (list (list (nonNull (named "User"))))) huser
      (by simp [Writable]) (by decide)
  · have hrender : (TypeExpr.read "[ User ,! ]").toOption.map (fun expr ↦ (ofExpr expr).render) =
        some "[User!]" := by
      decide +kernel
    cases hread : TypeExpr.read "[ User ,! ]" with
    | error problem =>
        rw [hread] at hrender
        cases hrender
    | ok expr =>
        rw [hread] at hrender
        obtain ⟨cursor, hcursor, hread⟩ := bind_eq_ok_iff.mp hread
        obtain ⟨⟨found, after⟩, hexpr, hfound⟩ := bind_eq_ok_iff.mp hread
        cases hfound
        exact ⟨cursor, expr, after, hcursor, hexpr, Option.some.inj hrender,
          htokens nestingLimit .typeExpr cursor expr after (Cursor.onText_ofText hcursor) hexpr⟩

end TypeRef

end QueryLint
