import QueryLint.Proofs.Grammar.Reading

/-!
# Which tokens a reading takes

Commas do not count. `Cursor.Takes` says which tokens, by kind and characters, stand between two
cursors; `Reading.Yields` carries it through a reading that succeeds. That a reading does succeed is
`Reading.Succeeds`, for the same readings from the tokens ahead.
-/

namespace QueryLint.Language

/-- What a token is, wherever it stands. -/
def Token.spelling (token : Token) : TokenKind × List Char := (token.kind, token.text)

/-- A lexeme that counts: a comma does not. -/
def Lexeme.counts : Lexeme → Bool
  | .token it => it.kind ≠ .comma
  | .fault _ _ => true

namespace Cursor

/-- The lexemes ahead that count. -/
def counting (cursor : Cursor) : List Lexeme := cursor.ahead.filter Lexeme.counts

/-- The lexemes ahead are the last ones of the text. -/
def OnText (cursor : Cursor) : Prop := cursor.ahead <:+ Lexeme.ofText cursor.source

theorem settle_ok {lexemes ahead : List Lexeme} (h : settle lexemes = .ok ahead) :
    ahead <:+ lexemes ∧ ahead.filter Lexeme.counts = lexemes.filter Lexeme.counts := by
  induction lexemes with
  | nil =>
      cases h
      exact ⟨List.suffix_rfl, rfl⟩
  | cons lexeme rest ih =>
      cases lexeme with
      | fault => cases h
      | token token =>
          rw [settle] at h
          split at h
          · next hcomma =>
              obtain ⟨hsuffix, hcounts⟩ := ih h
              refine ⟨hsuffix.trans (List.suffix_cons _ _), ?_⟩
              rw [hcounts, List.filter_cons_of_neg (by simp [Lexeme.counts, hcomma])]
          · cases h
            exact ⟨List.suffix_rfl, rfl⟩

theorem onText_ofText {source : List Char} {cursor : Cursor} (h : ofText source = .ok cursor) :
    cursor.OnText := by
  obtain ⟨ahead, hsettle, h⟩ := bind_eq_ok_iff.mp h
  cases h
  exact (settle_ok hsettle).1

/-- Between one cursor and another there are these tokens. -/
structure Takes (cursor after : Cursor) (words : List (TokenKind × List Char)) : Prop where
  source_eq : after.source = cursor.source
  suffix : after.ahead <:+ cursor.ahead
  tokens : ∃ tokens : List Token, tokens.map Token.spelling = words ∧
    cursor.counting = tokens.map Lexeme.token ++ after.counting

namespace Takes

variable {cursor middle after : Cursor} {words others : List (TokenKind × List Char)}

theorem refl (cursor : Cursor) : Takes cursor cursor [] :=
  ⟨rfl, List.suffix_rfl, [], rfl, rfl⟩

theorem trans (hfirst : Takes cursor middle words) (hsecond : Takes middle after others) :
    Takes cursor after (words ++ others) where
  source_eq := hsecond.source_eq.trans hfirst.source_eq
  suffix := hsecond.suffix.trans hfirst.suffix
  tokens := by
    obtain ⟨first, rfl, hcursor⟩ := hfirst.tokens
    obtain ⟨second, rfl, hmiddle⟩ := hsecond.tokens
    refine ⟨first ++ second, List.map_append, ?_⟩
    rw [hcursor, hmiddle, List.map_append, List.append_assoc]

theorem onText (h : Takes cursor after words) (hcursor : cursor.OnText) : after.OnText := by
  unfold OnText
  rw [h.source_eq]
  exact h.suffix.trans hcursor

end Takes

theorem scanned_of_current? {cursor : Cursor} (h : cursor.OnText) {token : Token}
    (htoken : cursor.current? = some token) : token.ScannedFrom 0 cursor.source :=
  Lexeme.scanned_of_mem_ofText (h.mem (mem_of_current? htoken))

end Cursor

namespace Reading

/-! ## What is taken by a reading that succeeds -/

section

variable {cursor : Cursor}

theorem takes_advance {token : Token} (htoken : cursor.current? = some token)
    (hcounts : token.kind ≠ .comma) :
    Yields advance cursor fun _ after ↦ cursor.Takes after [token.spelling] := by
  intro item after hread
  obtain ⟨source, length, hlength, ahead, consumed⟩ := cursor
  match ahead, htoken, hread with
  | .token _ :: rest, rfl, hread =>
      obtain ⟨ahead, hsettle, hread⟩ := bind_eq_ok_iff.mp hread
      cases hread
      obtain ⟨hsuffix, hcount⟩ := Cursor.settle_ok hsettle
      refine ⟨rfl, hsuffix.trans (List.suffix_cons _ _), [token], rfl, ?_⟩
      have hhere : Lexeme.counts (.token token) = true := by simpa [Lexeme.counts] using hcounts
      show (Lexeme.token token :: rest).filter Lexeme.counts = _
      rw [List.filter_cons_of_pos hhere]
      exact congrArg (Lexeme.token token :: ·) hcount.symm

/-- A mark has one character. -/
theorem takes_advance_mark (h : cursor.OnText) {kind : TokenKind} {c : Char}
    (hmark : kind.mark? = some c) (hcounts : kind ≠ .comma)
    {token : Token} (htoken : cursor.current? = some token) (hkind : token.kind = kind) :
    Yields advance cursor fun _ after ↦ cursor.Takes after [(kind, [c])] := by
  subst hkind
  have htext := (Cursor.scanned_of_current? h htoken).text_of_mark hmark
  rw [← htext]
  exact takes_advance htoken hcounts

theorem takes_nameOr (problem : GrammarProblem) :
    Yields (nameOr problem) cursor fun name after ↦
      cursor.Takes after [(.name, name.text.toList)] := by
  refine yields_nameOr_of fun token htoken hkind ↦ ?_
  have hcounts : token.kind ≠ .comma := by
    rw [hkind]
    decide
  have htakes := takes_advance htoken hcounts
  rw [Token.spelling, hkind] at htakes
  rwa [Token.word, String.toList_ofList]

/-- The mark is taken if it is told to be there. -/
theorem takes_accept (h : cursor.OnText) {kind : TokenKind} {c : Char}
    (hmark : kind.mark? = some c) (hcounts : kind ≠ .comma) :
    Yields (accept kind) cursor fun found after ↦
      cursor.Takes after (if found then [(kind, [c])] else []) :=
  yields_accept_of (fun _ ↦ takes_advance_mark h hmark hcounts) (.refl cursor)

theorem takes_close (h : cursor.OnText) (mark : ClosingMark) {c : Char}
    (hmark : (closingKind mark).mark? = some c) :
    Yields (close mark) cursor fun _ after ↦ cursor.Takes after [(closingKind mark, [c])] :=
  yields_close_of fun _ ↦ takes_advance_mark h hmark (by cases mark <;> decide)

end

end Reading

/-! ## Readings that succeed -/

namespace Cursor

/-- Ahead there are just tokens, these ones, and no commas. -/
structure Offers (cursor : Cursor) (words : List (TokenKind × List Char)) : Prop where
  tokens : ∃ tokens : List Token, tokens.map Token.spelling = words ∧
    cursor.ahead = tokens.map Lexeme.token
  counts : ∀ word ∈ words, word.1 ≠ .comma

theorem settle_tokens {tokens : List Token} (h : ∀ token ∈ tokens, token.kind ≠ .comma) :
    settle (tokens.map Lexeme.token) = .ok (tokens.map Lexeme.token) := by
  cases tokens with
  | nil => rfl
  | cons token rest =>
      rw [List.map_cons, settle, if_neg (h token List.mem_cons_self)]

variable {cursor : Cursor} {word : TokenKind × List Char} {words : List (TokenKind × List Char)}

theorem Offers.current? (h : cursor.Offers (word :: words)) :
    ∃ token, cursor.current? = some token ∧ token.spelling = word := by
  obtain ⟨tokens, hwords, hahead⟩ := h.tokens
  obtain ⟨token, rest, rfl, hword, -⟩ := List.map_eq_cons_iff.mp hwords
  refine ⟨token, ?_, hword⟩
  rw [Cursor.current?, hahead, List.map_cons]

theorem Offers.ahead_eq_nil (h : cursor.Offers []) : cursor.ahead = [] := by
  obtain ⟨tokens, hwords, hahead⟩ := h.tokens
  rw [hahead, List.map_eq_nil_iff.mp hwords, List.map_nil]

end Cursor

namespace Reading

variable {α β : Type}

/-- The reading succeeds from the cursor, and what it gives and where it ends are good. -/
def Succeeds (reading : Reading α) (cursor : Cursor) (good : α → Cursor → Prop) : Prop :=
  ∃ item after, reading cursor = .ok (item, after) ∧ good item after

namespace Succeeds

variable {cursor : Cursor} {good : α → Cursor → Prop}

theorem pure {item : α} (h : good item cursor) : Succeeds (Pure.pure item) cursor good :=
  ⟨item, cursor, rfl, h⟩

theorem bind {reading : Reading β} {next : β → Reading α} {between : β → Cursor → Prop}
    (h : Succeeds reading cursor between)
    (hnext : ∀ item after, between item after → Succeeds (next item) after good) :
    Succeeds (reading >>= next) cursor good := by
  obtain ⟨first, middle, hfirst, hbetween⟩ := h
  obtain ⟨item, after, hread, hgood⟩ := hnext first middle hbetween
  exact ⟨item, after, bind_eq_ok_iff.mpr ⟨(first, middle), hfirst, hread⟩, hgood⟩

/-- Go on after a reading that only looks. -/
theorem look {reading : Reading β} {value : β} {next : β → Reading α}
    (hlook : reading cursor = .ok (value, cursor)) (h : Succeeds (next value) cursor good) :
    Succeeds (reading >>= next) cursor good := by
  obtain ⟨item, after, hread, hgood⟩ := h
  exact ⟨item, after, bind_eq_ok_iff.mpr ⟨(value, cursor), hlook, hread⟩, hgood⟩

end Succeeds

section

variable {cursor : Cursor} {kind : TokenKind} {cs : List Char}
  {words : List (TokenKind × List Char)}

theorem currentKind_of_offers (h : cursor.Offers ((kind, cs) :: words)) :
    currentKind cursor = .ok (some kind, cursor) := by
  obtain ⟨token, htoken, hword⟩ := h.current?
  have hlook : currentKind cursor = .ok (cursor.current?.map Token.kind, cursor) := rfl
  rw [hlook, htoken, Option.map_some, (Prod.mk.inj hword).1]

theorem succeeds_advance (h : cursor.Offers ((kind, cs) :: words)) :
    Succeeds advance cursor fun _ after ↦ after.Offers words := by
  obtain ⟨tokens, hwords, hahead⟩ := h.tokens
  obtain ⟨token, rest, rfl, -, rfl⟩ := List.map_eq_cons_iff.mp hwords
  have hrest := (List.forall_mem_cons.mp h.counts).2
  have hsettle : Cursor.settle (rest.map Lexeme.token) = .ok (rest.map Lexeme.token) :=
    Cursor.settle_tokens fun token htoken ↦ hrest token.spelling (List.mem_map_of_mem htoken)
  refine ⟨(), { cursor with ahead := rest.map .token, consumed := token.span.stop }, ?_, ?_⟩
  · rw [advance, hahead, List.map_cons]
    exact bind_eq_ok_iff.mpr ⟨_, hsettle, rfl⟩
  · exact ⟨⟨rest, rfl, rfl⟩, hrest⟩

theorem succeeds_nameOr (problem : GrammarProblem) (h : cursor.Offers ((.name, cs) :: words)) :
    Succeeds (nameOr problem) cursor fun name after ↦
      name.text = String.ofList cs ∧ after.Offers words := by
  obtain ⟨token, htoken, hword⟩ := h.current?
  obtain ⟨hkind, htext⟩ := Prod.mk.inj hword
  refine .look rfl ?_
  simp only [htoken, if_pos hkind]
  refine (succeeds_advance h).bind fun _ after hafter ↦ .pure ⟨?_, hafter⟩
  rw [Token.word, htext]

theorem succeeds_close {mark : ClosingMark} (h : cursor.Offers ((closingKind mark, cs) :: words)) :
    Succeeds (close mark) cursor fun _ after ↦ after.Offers words := by
  obtain ⟨token, htoken, hword⟩ := h.current?
  refine .look rfl ?_
  simp only [htoken, if_pos (Prod.mk.inj hword).1]
  exact succeeds_advance h

/-- A mark that may be there is found if it is, where another one does not follow. -/
theorem succeeds_accept {found : Bool}
    (h : cursor.Offers ((if found then [(kind, cs)] else []) ++ words))
    (hnext : words.head?.map Prod.fst ≠ some kind) :
    Succeeds (accept kind) cursor fun answer after ↦ answer = found ∧ after.Offers words := by
  have hlook : at? kind cursor = .ok (cursor.current?.map Token.kind == some kind, cursor) := rfl
  refine .look hlook ?_
  cases found with
  | true =>
      obtain ⟨token, htoken, hword⟩ := h.current?
      rw [htoken, Option.map_some, if_pos (by simpa using (Prod.mk.inj hword).1)]
      exact (succeeds_advance h).bind fun _ after hafter ↦ .pure ⟨rfl, hafter⟩
  | false =>
      have hnone : cursor.current?.map Token.kind ≠ some kind := by
        cases words with
        | nil =>
            rw [Cursor.current?, Cursor.Offers.ahead_eq_nil h]
            nofun
        | cons word words =>
            obtain ⟨token, htoken, rfl⟩ := Cursor.Offers.current? h
            rw [htoken]
            exact hnext
      rw [if_neg (by simpa using hnone)]
      exact .pure ⟨rfl, h⟩

end

end Reading

end QueryLint.Language
