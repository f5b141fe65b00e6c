import Mathlib.Data.List.Infix
import Mathlib.Data.Option.Basic
import QueryLint.Language.Lexeme

/-!
# What is scanned

Every token of a text is scanned at its first character, from that character and those behind it
(`Lexeme.scanned_of_mem_ofText`). Main statement: `Scan.lexeme_cases`, which says of each kind of
token how it begins and how far it goes. A string ends at the first quote, or the first three of
them, that no backslash escapes (`Scan.afterQuote_ok`).
-/

namespace QueryLint.Language

/-- The character that forms a token of this kind by itself. -/
def TokenKind.mark? : TokenKind → Option Char
  | bang => some '!'
  | dollar => some '$'
  | amp => some '&'
  | openParen => some '('
  | closeParen => some ')'
  | colon => some ':'
  | openBracket => some '['
  | closeBracket => some ']'
  | equals => some '='
  | atSign => some '@'
  | pipe => some '|'
  | openBrace => some '{'
  | closeBrace => some '}'
  | comma => some ','
  | spread | name | int | float | string => none

theorem TokenKind.ofPunctuation?_eq_some_iff {c : Char} {kind : TokenKind} :
    ofPunctuation? c = some kind ↔ kind.mark? = some c := by
  constructor
  · intro h
    unfold ofPunctuation? at h
    split at h <;> cases h <;> rfl
  · intro h
    cases kind <;> cases h <;> rfl

namespace Scan

/-- If there is a token, it is of one of these kinds. -/
def Gives (kinds : List TokenKind) (scan : Scan) : Prop :=
  ∀ kind, scan.outcome = .ok kind → kind ∈ kinds

section

variable {kinds : List TokenKind}

theorem Gives.after {scan : Scan} (h : scan.Gives kinds) (count : Nat) :
    (scan.after count).Gives kinds := h

theorem gives_bad (more : Nat) (problem : LexicalProblem) : (bad more problem).Gives kinds := by
  intro kind h
  cases h

theorem gives_done {kind : TokenKind} (h : kind ∈ kinds) : (done kind).Gives kinds := by
  rintro found hfound
  cases hfound
  exact h

theorem gives_ite {condition : Prop} [Decidable condition] {yes no : Scan} (hyes : yes.Gives kinds)
    (hno : no.Gives kinds) : (if condition then yes else no).Gives kinds := by
  split
  · exact hyes
  · exact hno

end

/-! ## Numbers -/

/-- The kinds of number. -/
def numbers : List TokenKind := [.int, .float]

theorem gives_floatEnd (cs : List Char) : (floatEnd cs).Gives numbers := by
  cases cs with
  | nil => exact gives_done (by decide)
  | cons c cs => exact gives_ite (gives_bad _ _) (gives_done (by decide))

theorem gives_exponentDigits (cs : List Char) : (exponentDigits cs).Gives numbers :=
  (gives_floatEnd _).after _

theorem gives_afterExponentSign (cs : List Char) : (afterExponentSign cs).Gives numbers := by
  cases cs with
  | nil => exact gives_bad _ _
  | cons c cs => exact gives_ite ((gives_exponentDigits cs).after 1) (gives_bad _ _)

theorem gives_afterExponentMark (cs : List Char) : (afterExponentMark cs).Gives numbers := by
  cases cs with
  | nil => exact gives_bad _ _
  | cons c cs =>
      exact gives_ite ((gives_exponentDigits cs).after 1)
        (gives_ite ((gives_afterExponentSign cs).after 1) (gives_bad _ _))

theorem gives_afterFraction (cs : List Char) : (afterFraction cs).Gives numbers := by
  cases cs with
  | nil => exact gives_done (by decide)
  | cons c cs =>
      exact gives_ite ((gives_afterExponentMark cs).after 1) (gives_floatEnd (c :: cs))

theorem gives_afterPoint (cs : List Char) : (afterPoint cs).Gives numbers := by
  cases cs with
  | nil => exact gives_bad _ _
  | cons c cs => exact gives_ite ((gives_afterFraction _).after _) (gives_bad _ _)

theorem gives_afterInteger (cs : List Char) : (afterInteger cs).Gives numbers := by
  cases cs with
  | nil => exact gives_done (by decide)
  | cons c cs =>
      refine gives_ite ((gives_afterPoint cs).after 1) ?_
      refine gives_ite ((gives_afterExponentMark cs).after 1) ?_
      exact gives_ite (gives_bad _ _) (gives_done (by decide))

theorem gives_afterDigit (first : Char) (cs : List Char) : (afterDigit first cs).Gives numbers := by
  refine gives_ite ?_ ((gives_afterInteger _).after _)
  cases cs with
  | nil => exact gives_afterInteger []
  | cons c cs => exact gives_ite (gives_bad _ _) (gives_afterInteger (c :: cs))

theorem gives_afterMinus (cs : List Char) : (afterMinus cs).Gives numbers := by
  cases cs with
  | nil => exact gives_bad _ _
  | cons c cs => exact gives_ite ((gives_afterDigit c cs).after 1) (gives_bad _ _)

/-! ## Strings -/

/-- The backslash of an escape, if that is what a reader has just seen. -/
def StringState.backslash : StringState → List Char
  | .escape | .pairEscape _ => ['\\']
  | _ => []

/-- A string is closed without a problem only by a quote outside escapes. -/
theorem stringStep_close {state : StringState} {c : Char} (h : stringStep state c = .close none) :
    state = .plain ∧ c = '"' := by
  cases state with
  | plain =>
      rw [stringStep] at h
      split at h
      · next hquote => exact ⟨rfl, beq_iff_eq.mp hquote⟩
      · split at h <;> cases h
  | _ =>
      simp only [stringStep, afterEscapeDigits, afterPairDigits] at h
      repeat' split at h
      all_goals cases h

/-- A string goes on without a problem after a quote only if a backslash escapes it. -/
theorem stringStep_quote {state following : StringState}
    (h : stringStep state '"' = .next following none) : state = .escape := by
  cases state with
  | escape => rfl
  | _ => simp [stringStep] at h

/-- A reader that has just seen a backslash has read one. -/
theorem stringStep_backslash {state following : StringState} {c : Char}
    {problem : Option LexicalProblem} (h : stringStep state c = .next following problem) :
    following.backslash <:+ [c] := by
  have hescape (hc : c = '\\') : ['\\'] <:+ [c] := by rw [hc]
  cases state with
  | plain | highSurrogate =>
      rw [stringStep] at h
      split at h
      · cases h
      · split at h
        · next hc =>
            cases h
            exact hescape (beq_iff_eq.mp hc)
        · cases h
          exact List.nil_suffix
  | _ =>
      simp only [stringStep, afterEscapeDigits, afterPairDigits] at h
      repeat' split at h
      all_goals cases h
      all_goals exact List.nil_suffix

/-- If the characters end with a quote, they end with this escape of it. -/
def EndsEscaped (escape content : List Char) : Prop :=
  content.getLast? = some '"' → escape <:+ content

theorem endsEscaped_nil (escape : List Char) : EndsEscaped escape [] := by
  intro h
  cases h

/-- What goes before does not matter if the end is escaped without it. -/
theorem EndsEscaped.append {escape content : List Char} (h : EndsEscaped escape content)
    (hcontent : content ≠ []) (before : List Char) : EndsEscaped escape (before ++ content) := by
  intro hlast
  rw [List.getLast?_append_of_ne_nil _ hcontent] at hlast
  exact (h hlast).trans (List.suffix_append before content)

/-- A string that is read without a problem goes on up to a quote that no backslash escapes. -/
theorem stringRest_ok {state : StringState} {problem : Option LexicalProblem} {cs : List Char}
    {kind : TokenKind} (h : (stringRest state problem cs).outcome = .ok kind) :
    kind = .string ∧ problem = none ∧ ∃ content rest, cs = content ++ '"' :: rest ∧
      (stringRest state problem cs).more = content.length + 1 ∧
        (content.head? = some '"' → state = .escape) ∧
          EndsEscaped ['\\', '"'] (state.backslash ++ content) := by
  induction cs generalizing state problem with
  | nil => cases h
  | cons c cs ih =>
      rw [stringRest] at h ⊢
      cases hstep : stringStep state c with
      | close found =>
          simp only [hstep] at h ⊢
          cases hproblem : (found <|> problem) with
          | some last =>
              rw [hproblem] at h
              cases h
          | none =>
              rw [hproblem] at h
              cases h
              obtain ⟨rfl, rfl⟩ := (Option.orElse_eq_none _ _).mp hproblem
              obtain ⟨rfl, rfl⟩ := stringStep_close hstep
              exact ⟨rfl, rfl, [], cs, rfl, rfl, nofun, endsEscaped_nil _⟩
      | next following found =>
          simp only [hstep] at h ⊢
          obtain ⟨hkind, hproblem, content, rest, rfl, hmore, -, hlast⟩ := ih h
          obtain ⟨rfl, rfl⟩ := (Option.orElse_eq_none _ _).mp hproblem
          refine ⟨hkind, rfl, c :: content, rest, rfl, congrArg (· + 1) hmore, ?_, ?_⟩
          · rintro ⟨⟩
            exact stringStep_quote hstep
          · cases content with
            | nil =>
                intro hc
                obtain rfl : c = '"' := by simpa using hc
                rw [stringStep_quote hstep]
                exact List.suffix_rfl
            | cons d content =>
                -- A backslash that the next state has seen is `c` itself.
                have hlater : EndsEscaped ['\\', '"'] ([c] ++ d :: content) := by
                  obtain ⟨before, hbefore⟩ := stringStep_backslash hstep
                  rw [← hbefore, List.append_assoc]
                  exact hlast.append (List.append_ne_nil_of_right_ne_nil _ nofun) before
                exact hlater.append nofun state.backslash

/-- A block string that is read without a problem goes on up to three quotes that no backslash
escapes. -/
theorem blockRest_ok {cs : List Char} {kind : TokenKind} (h : (blockRest cs).outcome = .ok kind) :
    kind = .string ∧ ∃ content rest, cs = content ++ '"' :: '"' :: '"' :: rest ∧
      (blockRest cs).more = content.length + 3 ∧ EndsEscaped ['\\', '"', '"', '"'] content := by
  fun_induction blockRest cs with
  | case1 => cases h
  | case2 cs ih =>
      obtain ⟨hkind, content, rest, rfl, hmore, hend⟩ := ih h
      refine ⟨hkind, '\\' :: '"' :: '"' :: '"' :: content, rest, rfl, congrArg (· + 4) hmore, ?_⟩
      cases content with
      | nil => exact fun _ ↦ List.suffix_rfl
      | cons d content => exact hend.append nofun ['\\', '"', '"', '"']
  | case3 cs =>
      cases h
      exact ⟨rfl, [], cs, rfl, rfl, endsEscaped_nil _⟩
  | case4 c cs hescape hclose ih =>
      obtain ⟨hkind, content, rest, rfl, hmore, hend⟩ := ih h
      refine ⟨hkind, c :: content, rest, rfl, congrArg (· + 1) hmore, ?_⟩
      cases content with
      | nil =>
          -- A quote in front of the three that close would have closed with two of them.
          intro hc
          obtain rfl : c = '"' := by simpa using hc
          exact absurd rfl (hclose ('"' :: rest) rfl)
      | cons d content => exact hend.append nofun [c]

/-- The text is a string, quoted or a block string, with this content between its delimiters. -/
inductive Encloses : List Char → List Char → Prop
  | quoted {content : List Char} (hbegin : content.head? ≠ some '"')
      (hend : EndsEscaped ['\\', '"'] content) : Encloses ('"' :: (content ++ ['"'])) content
  | block {content : List Char} (hend : EndsEscaped ['\\', '"', '"', '"'] content) :
      Encloses ('"' :: '"' :: '"' :: (content ++ ['"', '"', '"'])) content

/-- A text is a string in at most one way. -/
theorem Encloses.unique {text content other : List Char} (h : Encloses text content)
    (hother : Encloses text other) : content = other := by
  have hmixed {content other : List Char} (hbegin : content.head? ≠ some '"')
      (htext : '"' :: (content ++ ['"']) = '"' :: '"' :: '"' :: (other ++ ['"', '"', '"'])) :
      False := by
    cases content with
    | nil => cases htext
    | cons c content =>
        obtain rfl : c = '"' := (List.cons.inj (List.cons.inj htext).2).1
        exact hbegin rfl
  generalize htext : text = same at hother
  cases h with
  | quoted hbegin =>
      cases hother with
      | quoted => exact List.append_cancel_right (List.cons.inj htext).2
      | block => exact (hmixed hbegin htext).elim
  | block =>
      cases hother with
      | quoted hbegin => exact (hmixed hbegin htext.symm).elim
      | block => simpa using htext

/-- What an opening quote begins without a problem is a string. -/
theorem afterQuote_ok {cs : List Char} {kind : TokenKind} (h : (afterQuote cs).outcome = .ok kind) :
    kind = .string ∧ ∃ content, Encloses ('"' :: cs.take (afterQuote cs).more) content := by
  have hquoted {cs : List Char} (h : (stringRest .plain none cs).outcome = .ok kind) :
      kind = .string ∧ ∃ content,
        cs.take (stringRest .plain none cs).more = content ++ ['"'] ∧
          content.head? ≠ some '"' ∧ EndsEscaped ['\\', '"'] content := by
    obtain ⟨hkind, -, content, rest, rfl, hmore, hbegin, hend⟩ := stringRest_ok h
    refine ⟨hkind, content, ?_, ?_, hend⟩
    · rw [hmore]
      simp [List.take_append]
    · intro hhead
      cases hbegin hhead
  fun_cases afterQuote cs with
  | case1 => cases h
  | case2 cs =>
      obtain ⟨hkind, content, rest, rfl, hmore, hend⟩ := blockRest_ok h
      refine ⟨hkind, content, ?_⟩
      have htext : ('"' :: '"' :: (content ++ '"' :: '"' :: '"' :: rest)).take
          ((blockRest (content ++ '"' :: '"' :: '"' :: rest)).after 2).more =
            '"' :: '"' :: (content ++ ['"', '"', '"']) := by
        simp [after, hmore, List.take_append]
      rw [htext]
      exact .block hend
  | case3 c cs hblock hline =>
      rw [afterQuote.eq_3 _ _ hblock, if_pos hline] at h
      obtain ⟨hkind, content, htext, -, hend⟩ := hquoted h
      refine ⟨hkind, c :: content, ?_⟩
      have hc : c ≠ '"' := by
        rintro rfl
        cases hline
      have hcontent : EndsEscaped ['\\', '"'] (c :: content) := by
        cases content with
        | nil => exact fun hlast ↦ absurd (Option.some.inj hlast) hc
        | cons d content => exact hend.append nofun [c]
      have htake : (c :: cs).take ((stringRest .plain none cs).after 1).more =
          (c :: content) ++ ['"'] := congrArg (c :: ·) htext
      rw [htake]
      exact .quoted (fun hhead ↦ hc (Option.some.inj hhead)) hcontent
  | case4 c cs hblock hline =>
      rw [afterQuote.eq_3 _ _ hblock, if_neg hline] at h
      obtain ⟨hkind, content, htext, hbegin, hend⟩ := hquoted h
      refine ⟨hkind, content, ?_⟩
      rw [htext]
      exact .quoted hbegin hend

/-! ## Any lexeme -/

theorem gives_afterFirstPoint (cs : List Char) : (afterFirstPoint cs).Gives [.spread] := by
  unfold afterFirstPoint
  split
  · exact gives_done (by decide)
  · exact gives_bad _ _
  · exact gives_bad _ _

/-- A token is a mark of one character, a name with all the characters that can go on with it, a
number, a string or a spread. -/
theorem lexeme_cases {c : Char} {rest : List Char} {kind : TokenKind}
    (h : (lexeme c rest).outcome = .ok kind) :
    (kind.mark? = some c ∧ (lexeme c rest).more = 0) ∨
      (kind = .name ∧ isNameStart c = true ∧
        (lexeme c rest).more = (rest.takeWhile isNameChar).length) ∨
      kind ∈ numbers ∨
      (kind = .string ∧ ∃ content, Encloses (c :: rest.take (lexeme c rest).more) content) ∨
      kind = .spread := by
  unfold lexeme at h ⊢
  cases hpunctuation : TokenKind.ofPunctuation? c with
  | some found =>
      rw [hpunctuation] at h
      cases h
      exact .inl ⟨TokenKind.ofPunctuation?_eq_some_iff.mp hpunctuation, rfl⟩
  | none =>
      rw [hpunctuation] at h
      refine .inr ?_
      simp only at h ⊢
      by_cases hname : isNameStart c = true
      · rw [if_pos hname] at h ⊢
        cases h
        exact .inl ⟨rfl, hname, Nat.zero_add _⟩
      rw [if_neg hname] at h ⊢
      by_cases hdigit : c.isDigit = true
      · rw [if_pos hdigit] at h
        exact .inr (.inl (gives_afterDigit c rest kind h))
      rw [if_neg hdigit] at h ⊢
      by_cases hminus : (c == '-') = true
      · rw [if_pos hminus] at h
        exact .inr (.inl (gives_afterMinus rest kind h))
      rw [if_neg hminus] at h ⊢
      by_cases hquote : (c == '"') = true
      · rw [if_pos hquote] at h ⊢
        obtain rfl := beq_iff_eq.mp hquote
        exact .inr (.inr (.inl (afterQuote_ok h)))
      rw [if_neg hquote] at h
      by_cases hpoint : (c == '.') = true
      · rw [if_pos hpoint] at h
        exact .inr (.inr (.inr (List.mem_singleton.mp (gives_afterFirstPoint rest kind h))))
      · rw [if_neg hpoint] at h
        cases h

end Scan

/-! ## The tokens of a text -/

/-- The token is scanned at its first character, in a text that begins at byte `offset`. -/
def Token.ScannedFrom (offset : Nat) (cs : List Char) (token : Token) : Prop :=
  ∃ before c rest, cs = before ++ c :: rest ∧ token.start = offset + Text.byteLength before ∧
    (Scan.lexeme c rest).outcome = .ok token.kind ∧
      token.text = c :: rest.take (Scan.lexeme c rest).more

namespace Token.ScannedFrom

variable {offset : Nat} {cs : List Char} {token : Token}

theorem cons {c : Char} (h : token.ScannedFrom (offset + c.utf8Size) cs) :
    token.ScannedFrom offset (c :: cs) := by
  obtain ⟨before, d, rest, rfl, hstart, hscan⟩ := h
  refine ⟨c :: before, d, rest, rfl, ?_, hscan⟩
  rw [hstart, Text.byteLength_cons, Nat.add_assoc]

/-- The characters of a token are those in its range. -/
theorem slice_span (h : token.ScannedFrom 0 cs) : Text.slice token.span cs = token.text := by
  obtain ⟨before, c, rest, rfl, hstart, -, htext⟩ := h
  have hcs : before ++ c :: rest =
      before ++ token.text ++ rest.drop (Scan.lexeme c rest).more := by
    rw [htext, List.append_assoc, List.cons_append, List.take_append_drop]
  rw [hcs, Token.span, hstart, Nat.zero_add]
  exact Text.slice_append _ _ _

/-- A mark has one character. -/
theorem text_of_mark {c : Char} (h : token.ScannedFrom offset cs)
    (hmark : token.kind.mark? = some c) : token.text = [c] := by
  obtain ⟨before, d, rest, -, -, hscan, htext⟩ := h
  rcases Scan.lexeme_cases hscan with ⟨hfound, hmore⟩ | ⟨hname, -⟩ | hnumber | ⟨hstring, -⟩ | hspread
  · obtain rfl := Option.some.inj (hmark.symm.trans hfound)
    rw [htext, hmore, List.take_zero]
  · rw [hname] at hmark
    cases hmark
  · rcases List.mem_pair.mp hnumber with hkind | hkind <;> rw [hkind] at hmark <;> cases hmark
  · rw [hstring] at hmark
    cases hmark
  · rw [hspread] at hmark
    cases hmark

end Token.ScannedFrom

namespace Lexeme

theorem scanned_of_mem_listFrom {offset pending : Nat} {cs : List Char} {token : Token}
    (h : .token token ∈ listFrom offset pending cs) : token.ScannedFrom offset cs := by
  induction cs generalizing offset pending with
  | nil => cases h
  | cons c cs ih =>
      cases pending with
      | succ pending => exact (ih h).cons
      | zero =>
          rw [listFrom] at h
          split at h
          · exact (ih h).cons
          · split at h
            · exact (ih h).cons
            · cases hscan : (Scan.lexeme c cs).outcome with
              | error problem =>
                  simp only [hscan] at h
                  rcases List.mem_cons.mp h with hhere | hlater
                  · cases hhere
                  · exact (ih hlater).cons
              | ok kind =>
                  simp only [hscan] at h
                  rcases List.mem_cons.mp h with hhere | hlater
                  · cases hhere
                    exact ⟨[], c, cs, rfl, rfl, hscan, rfl⟩
                  · exact (ih hlater).cons

/-- Every token of a text is scanned where it begins. -/
theorem scanned_of_mem_ofText {source : List Char} {token : Token}
    (h : .token token ∈ ofText source) : token.ScannedFrom 0 source :=
  scanned_of_mem_listFrom h

/-- Every string of a text has a content, and only one. -/
theorem exists_encloses {source : List Char} {token : Token}
    (hmem : .token token ∈ ofText source) (hkind : token.kind = .string) :
    ∃ content, ∀ other, Scan.Encloses token.text other ↔ other = content := by
  obtain ⟨-, c, rest, -, -, hscan, htext⟩ := scanned_of_mem_ofText hmem
  obtain ⟨content, hcontent⟩ : ∃ content, Scan.Encloses token.text content := by
    rw [htext]
    rw [hkind] at hscan
    rcases Scan.lexeme_cases hscan with ⟨hmark, -⟩ | ⟨hname, -⟩ | hnumber | ⟨-, hstring⟩ | hspread
    · cases hmark
    · cases hname
    · simp [Scan.numbers] at hnumber
    · exact hstring
    · cases hspread
  refine ⟨content, fun other ↦ ⟨fun hother ↦ hother.unique hcontent, ?_⟩⟩
  rintro rfl
  exact hcontent

/-! ## Texts that are made of tokens -/

/-- What belongs to a lexeme that is already read is passed over. -/
theorem listFrom_length_append (offset : Nat) (read rest : List Char) :
    listFrom offset read.length (read ++ rest) =
      listFrom (offset + Text.byteLength read) 0 rest := by
  induction read generalizing offset with
  | nil => rfl
  | cons c cs ih =>
      rw [Text.byteLength_cons, ← Nat.add_assoc]
      exact ih (offset + c.utf8Size)

theorem listFrom_of_lexeme {c : Char} {read rest : List Char} {kind : TokenKind}
    (hblank : isIgnored c = false) (hcomment : c ≠ '#')
    (hscan : Scan.lexeme c (read ++ rest) = ⟨read.length, .ok kind⟩) (offset : Nat) :
    listFrom offset 0 (c :: (read ++ rest)) =
      .token ⟨kind, c :: read, offset⟩ ::
        listFrom (offset + Text.byteLength (c :: read)) 0 rest := by
  rw [listFrom, if_neg (by simp [hblank]), if_neg (by simpa using hcomment), hscan]
  simp only [List.take_left']
  rw [listFrom_length_append, Text.byteLength_cons, Nat.add_assoc]

/-- A mark is a token, whatever follows. -/
theorem listFrom_mark {kind : TokenKind} {c : Char} (h : kind.mark? = some c) (offset : Nat)
    (rest : List Char) :
    listFrom offset 0 (c :: rest) =
      .token ⟨kind, [c], offset⟩ :: listFrom (offset + Text.byteLength [c]) 0 rest := by
  have hscan : Scan.lexeme c rest = ⟨0, .ok kind⟩ := by
    rw [Scan.lexeme, TokenKind.ofPunctuation?_eq_some_iff.mpr h]
    rfl
  have hplain : isIgnored c = false ∧ c ≠ '#' := by
    cases kind <;> cases h <;> decide
  exact @listFrom_of_lexeme c [] rest kind hplain.1 hplain.2 hscan offset

end Lexeme

end QueryLint.Language
