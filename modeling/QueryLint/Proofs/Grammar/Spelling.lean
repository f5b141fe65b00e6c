import Mathlib.Data.List.TakeWhile
import QueryLint.Language.Reading
import QueryLint.Proofs.Grammar.Scanning
import QueryLint.Proofs.Outcome
import QueryLint.Proofs.Walk.Places

/-!
# The spelling of names

Every token that is a name begins with a letter or an underscore and goes on with letters, digits and
underscores. Main statement: `Cursor.spelled_ofText`. `Construct.Spelled` says the same of the types
that a construct names, at any depth.
-/

namespace QueryLint.Language

/-- The characters are those of a name. -/
def IsName (cs : List Char) : Prop :=
  ∃ first rest, cs = first :: rest ∧ Scan.isNameStart first = true ∧
    ∀ c ∈ rest, Scan.isNameChar c = true

/-- The name has the characters of one. -/
def Name.Spelled (name : Name) : Prop := IsName name.text.toList

/-- If the token is a name, it has the characters of one. -/
def Token.Spelled (token : Token) : Prop := token.kind = .name → IsName token.text

namespace Scan

/-- A name begins with a character that can begin one, and takes all that follow and can go on with
one. -/
theorem lexeme_of_name {c : Char} {rest : List Char} (h : (lexeme c rest).outcome = .ok .name) :
    isNameStart c = true ∧ (lexeme c rest).more = (rest.takeWhile isNameChar).length := by
  rcases lexeme_cases h with ⟨hmark, -⟩ | ⟨-, hname⟩ | hnumber | ⟨hstring, -⟩ | hspread
  · cases hmark
  · exact hname
  · simp [numbers] at hnumber
  · cases hstring
  · cases hspread

end Scan

/-! ## Tokens ahead -/

namespace Lexeme

/-- The names among the lexemes of a text have the characters of names. -/
theorem spelled_of_mem_listFrom {offset pending : Nat} {cs : List Char} {token : Token}
    (h : .token token ∈ listFrom offset pending cs) : token.Spelled := by
  obtain ⟨-, c, rest, -, -, hscan, htext⟩ := scanned_of_mem_listFrom h
  intro hkind
  rw [hkind] at hscan
  obtain ⟨hstart, hmore⟩ := Scan.lexeme_of_name hscan
  refine ⟨c, _, htext, hstart, fun d hd ↦ ?_⟩
  rw [hmore, ← List.prefix_iff_eq_take.mp (List.takeWhile_prefix _)] at hd
  exact List.mem_takeWhile_imp hd

/-- A name is a token up to where no character goes on with it. -/
theorem listFrom_name {cs rest : List Char} (h : IsName cs)
    (hrest : ∀ c, rest.head? = some c → Scan.isNameChar c = false) (offset : Nat) :
    listFrom offset 0 (cs ++ rest) =
      .token ⟨.name, cs, offset⟩ :: listFrom (offset + Text.byteLength cs) 0 rest := by
  obtain ⟨first, more, rfl, hfirst, hmore⟩ := h
  have hnone : rest.takeWhile Scan.isNameChar = [] := by
    cases rest with
    | nil => rfl
    | cons c rest => simp [hrest c rfl]
  have hmark : TokenKind.ofPunctuation? first = none := by
    cases hkind : TokenKind.ofPunctuation? first with
    | none => rfl
    | some kind =>
        have hmark := TokenKind.ofPunctuation?_eq_some_iff.mp hkind
        cases kind <;> cases hmark <;> cases hfirst
  have hscan : Scan.lexeme first (more ++ rest) = ⟨more.length, .ok .name⟩ := by
    simp only [Scan.lexeme, hmark, if_pos hfirst]
    rw [List.takeWhile_append_of_pos hmore, hnone, List.append_nil, Scan.after, Scan.done,
      Nat.zero_add]
  have hblank : isIgnored first = false := by
    refine Bool.eq_false_iff.mpr fun hblank ↦ ?_
    simp only [isIgnored, Bool.or_eq_true, beq_iff_eq] at hblank
    obtain (((rfl | rfl) | rfl) | rfl) | rfl := hblank <;> cases hfirst
  have hcomment : first ≠ '#' := by
    rintro rfl
    cases hfirst
  exact listFrom_of_lexeme hblank hcomment hscan offset

theorem mem_of_mem_settle {lexemes ahead : List Lexeme} (h : Cursor.settle lexemes = .ok ahead)
    {lexeme : Lexeme} (hmem : lexeme ∈ ahead) : lexeme ∈ lexemes := by
  induction lexemes with
  | nil =>
      cases h
      exact hmem
  | cons first rest ih =>
      cases first with
      | fault => cases h
      | token it =>
          rw [Cursor.settle] at h
          split at h
          · exact List.mem_cons_of_mem _ (ih h)
          · cases h
            exact hmem

end Lexeme

namespace Cursor

/-- The names among the tokens ahead have the characters of names. -/
def Spelled (cursor : Cursor) : Prop := ∀ token, .token token ∈ cursor.ahead → token.Spelled

theorem mem_of_current? {cursor : Cursor} {token : Token} (h : cursor.current? = some token) :
    .token token ∈ cursor.ahead := by
  unfold current? at h
  split at h
  · next hahead =>
      cases h
      rw [hahead]
      exact List.mem_cons_self
  · cases h

theorem spelled_ofText {source : List Char} {cursor : Cursor} (h : ofText source = .ok cursor) :
    cursor.Spelled := by
  obtain ⟨ahead, hsettle, h⟩ := bind_eq_ok_iff.mp h
  cases h
  exact fun token hmem ↦ Lexeme.spelled_of_mem_listFrom (Lexeme.mem_of_mem_settle hsettle hmem)

end Cursor

/-! ## Constructs -/

namespace Construct

/-- If the construct is a named type, its name has the characters of one. -/
def NameSpelled : Construct → Prop
  | namedType name => name.Spelled
  | _ => True

/-- The types that a construct names, at any depth, have the characters of names. -/
inductive Spelled : Construct → Prop
  | intro {here : Construct} (hname : here.NameSpelled) (hparts : ∀ part ∈ here.parts, part.Spelled) :
      Spelled here

end Construct

end QueryLint.Language
