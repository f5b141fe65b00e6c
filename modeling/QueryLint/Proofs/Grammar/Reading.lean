import QueryLint.Proofs.Grammar.Spelling
import QueryLint.Proofs.Walk.Layout

/-!
# What readings read

A reading that succeeds moves a cursor forward, and what it gives lies in the text between where it
began and where it ended. `Cursor.Read` says so of two cursors and the constructs between them, and
`Reading.Reads` of a reading. The step from the parts of a construct to the construct is
`Cursor.Read.whole`.

`Reading.Yields` is what holds of a reading from one cursor if it succeeds. A reading in steps is
followed from the first step to the last (`Reads.next`, `Reads.pass`, `Yields.look`), with what has
been read so far as the hypothesis that is handed on.
-/

namespace QueryLint.Language

/-! ## Lexemes in a text -/

theorem Token.span_le (token : Token) : token.start ≤ token.span.stop := Nat.le_add_right _ _

namespace Lexeme

/-- The tokens lie between two offsets, one after the other. -/
def Between (start stop : Nat) : List Lexeme → Prop
  | [] => start ≤ stop
  | .fault _ _ :: rest => Between start stop rest
  | .token it :: rest => start ≤ it.start ∧ Between it.span.stop stop rest

theorem Between.le {start stop : Nat} {lexemes : List Lexeme} (h : Between start stop lexemes) :
    start ≤ stop := by
  induction lexemes generalizing start with
  | nil => exact h
  | cons lexeme rest ih =>
      cases lexeme with
      | fault => exact ih h
      | token it => exact Nat.le_trans h.1 (Nat.le_trans it.span_le (ih h.2))

theorem Between.of_le {start earlier stop : Nat} {lexemes : List Lexeme}
    (h : Between start stop lexemes) (hle : earlier ≤ start) : Between earlier stop lexemes := by
  induction lexemes with
  | nil => exact Nat.le_trans hle h
  | cons lexeme rest ih =>
      cases lexeme with
      | fault => exact ih h
      | token it => exact ⟨Nat.le_trans hle h.1, h.2⟩

/-- The lexemes of a text lie between the characters that are already read and its end. -/
theorem between_listFrom (offset pending : Nat) (cs : List Char) :
    Between (offset + Text.byteLength (cs.take pending)) (offset + Text.byteLength cs)
      (listFrom offset pending cs) := by
  induction cs generalizing offset pending with
  | nil => simp [listFrom, Between]
  | cons c cs ih =>
      cases pending with
      | succ pending =>
          have h := ih (offset + c.utf8Size) pending
          simpa [listFrom, Nat.add_assoc] using h
      | zero =>
          have h (pending : Nat) := ih (offset + c.utf8Size) pending
          simp only [Nat.add_assoc, ← Text.byteLength_cons] at h
          have hskip (pending : Nat) := (h pending).of_le (Nat.le_add_right offset _)
          rw [listFrom]
          split
          · exact hskip 0
          · split
            · exact hskip _
            · obtain ⟨more, problem | kind⟩ := Scan.lexeme c cs
              · exact hskip more
              · exact ⟨Nat.le_refl offset, h more⟩

theorem between_settle {start stop : Nat} {lexemes ahead : List Lexeme}
    (h : Between start stop lexemes) (hsettle : Cursor.settle lexemes = .ok ahead) :
    Between start stop ahead := by
  induction lexemes generalizing start with
  | nil =>
      cases hsettle
      exact h
  | cons lexeme rest ih =>
      cases lexeme with
      | fault => cases hsettle
      | token it =>
          rw [Cursor.settle] at hsettle
          split at hsettle
          · exact (ih h.2 hsettle).of_le (Nat.le_trans h.1 it.span_le)
          · cases hsettle
            exact h

end Lexeme

/-! ## Cursors on their way -/

namespace Cursor

/-- The tokens ahead lie between the last one that was consumed and the end of the text. -/
def Ordered (cursor : Cursor) : Prop :=
  Lexeme.Between cursor.consumed cursor.length cursor.ahead

theorem Ordered.consumed_le {cursor : Cursor} (h : cursor.Ordered) :
    cursor.consumed ≤ cursor.offset := by
  obtain ⟨source, length, hlength, ahead, consumed⟩ := cursor
  cases ahead with
  | nil => exact h
  | cons lexeme rest =>
      cases lexeme with
      | token it => exact h.1
      | fault => exact Lexeme.Between.le h

theorem ordered_ofText {source : List Char} {cursor : Cursor} (h : ofText source = .ok cursor) :
    cursor.Ordered ∧ cursor.length = Text.byteLength source := by
  obtain ⟨ahead, hsettle, h⟩ := bind_eq_ok_iff.mp h
  cases h
  have hall := Lexeme.between_listFrom 0 0 source
  simp only [List.take_zero, Text.byteLength_nil, Nat.zero_add] at hall
  exact ⟨Lexeme.between_settle hall hsettle, rfl⟩

/-- On the way from one cursor to another these constructs have been read, and if `taken` at least
one token. -/
structure Read (taken : Bool) (cursor after : Cursor) (row : List Construct) : Prop where
  ordered : after.Ordered
  length_eq : after.length = cursor.length
  offset_le : cursor.offset ≤ after.offset
  consumed_le : cursor.consumed ≤ after.consumed
  offset_le_consumed : taken = true → cursor.offset ≤ after.consumed
  /-- Where nothing has been read, the current token may stand behind the last one consumed. -/
  laidOut : row = [] ∨ LaidOut cursor.offset after.consumed row
  spelled : cursor.Spelled → after.Spelled ∧ ∀ here ∈ row, here.Spelled

namespace Read

variable {taken : Bool} {cursor middle after : Cursor} {row others : List Construct}

theorem refl (h : cursor.Ordered) : Read false cursor cursor [] :=
  ⟨h, rfl, Nat.le_refl _, Nat.le_refl _, nofun, .inl rfl, fun hspelled ↦
    ⟨hspelled, List.forall_mem_nil _⟩⟩

theorem trans {first : Bool} (hfirst : Read first cursor middle row)
    (hsecond : Read taken middle after others) :
    Read (first || taken) cursor after (row ++ others) where
  ordered := hsecond.ordered
  length_eq := hsecond.length_eq.trans hfirst.length_eq
  offset_le := Nat.le_trans hfirst.offset_le hsecond.offset_le
  consumed_le := Nat.le_trans hfirst.consumed_le hsecond.consumed_le
  offset_le_consumed h := by
    rcases (Bool.or_eq_true _ _).mp h with h | h
    · exact Nat.le_trans (hfirst.offset_le_consumed h) hsecond.consumed_le
    · exact Nat.le_trans hfirst.offset_le (hsecond.offset_le_consumed h)
  laidOut := by
    rcases hfirst.laidOut with rfl | hrow
    · exact hsecond.laidOut.imp_right fun hothers ↦
        hothers.mono hfirst.offset_le (Nat.le_refl _)
    · refine .inr ?_
      rcases hsecond.laidOut with rfl | hothers
      · rw [List.append_nil]
        exact hrow.mono (Nat.le_refl _) hsecond.consumed_le
      · exact hrow.append (hothers.mono hfirst.ordered.consumed_le (Nat.le_refl _))
  spelled h := by
    obtain ⟨hmiddle, hrow⟩ := hfirst.spelled h
    obtain ⟨hafter, hothers⟩ := hsecond.spelled hmiddle
    exact ⟨hafter, List.forall_mem_append.mpr ⟨hrow, hothers⟩⟩

theorem extend {first : Bool} (hfirst : Read first cursor middle row)
    (hsecond : Read taken middle after others) : Read first cursor after (row ++ others) :=
  { hfirst.trans hsecond with
    offset_le_consumed := fun h ↦
      Nat.le_trans (hfirst.offset_le_consumed h) hsecond.consumed_le }

theorem mayTake (h : Read taken cursor after row) : Read false cursor after row :=
  { h with offset_le_consumed := nofun }

/-- What has been read need not be kept. -/
theorem forget (h : Read taken cursor after row) : Read false cursor after [] :=
  { h.mayTake with
    laidOut := .inl rfl
    spelled := fun hspelled ↦ ⟨(h.spelled hspelled).1, List.forall_mem_nil _⟩ }

/-- Constructs are the parts of one that has their range and is spelled as the tokens ahead are. -/
theorem enclose (h : Read true cursor after row) {here : Construct}
    (hspan : here.span? = some ⟨cursor.offset, after.consumed⟩) (hparts : here.parts = row)
    (hname : cursor.Spelled → here.NameSpelled) : Read true cursor after [here] := by
  have hle := h.offset_le_consumed rfl
  have hrow : LaidOut cursor.offset after.consumed here.parts := by
    rcases h.laidOut with hnil | hrow
    · rw [hparts, hnil]
      exact .nil hle
    · rwa [hparts]
  refine { h with laidOut := .inr ?_, spelled := fun hspelled ↦ ?_ }
  · exact .cons hspan (Nat.le_refl _) hrow (.nil (Nat.le_refl _))
  · obtain ⟨hafter, hpart⟩ := h.spelled hspelled
    rw [← hparts] at hpart
    exact ⟨hafter, List.forall_mem_singleton.mpr (.intro (hname hspelled) hpart)⟩

/-- Constructs are the parts of one that has their range. -/
theorem whole (h : Read true cursor after row) {here : Construct}
    (hspan : here.span? = some ⟨cursor.offset, after.consumed⟩) (hparts : here.parts = row)
    (hname : here.NameSpelled) : Read true cursor after [here] :=
  h.enclose hspan hparts fun _ ↦ hname

/-- A construct can have the range of its only part. A named type has no parts. -/
theorem around {inner outer : Construct} (h : Read taken cursor after [inner])
    (hspan : outer.span? = inner.span?) (hparts : outer.parts = [inner]) :
    Read taken cursor after [outer] := by
  have hlaid := (h.laidOut.resolve_left nofun).around hspan hparts
  refine { h with laidOut := .inr hlaid, spelled := fun hspelled ↦ ?_ }
  obtain ⟨hafter, hpart⟩ := h.spelled hspelled
  have hname : outer.NameSpelled := by
    cases outer with
    | namedType name => cases hparts
    | _ => trivial
  rw [← hparts] at hpart
  exact ⟨hafter, List.forall_mem_singleton.mpr (.intro hname hpart)⟩

end Read

end Cursor

/-! ## Readings -/

namespace Reading

variable {α β : Type}

/-- If the reading succeeds from the cursor, what it gives and where it ends are good. -/
def Yields (reading : Reading α) (cursor : Cursor) (good : α → Cursor → Prop) : Prop :=
  ∀ item after, reading cursor = .ok (item, after) → good item after

/-- The reading goes over constructs, and if `taken` over at least one token. -/
def Reads (taken : Bool) (reading : Reading α) (row : α → List Construct) : Prop :=
  ∀ cursor, cursor.Ordered →
    Yields reading cursor fun item after ↦ cursor.Read taken after (row item)

namespace Yields

variable {cursor : Cursor} {good : α → Cursor → Prop}

theorem pure {item : α} (h : good item cursor) : Yields (Pure.pure item) cursor good := by
  intro found after hread
  cases hread
  exact h

theorem fail {problem : GrammarProblem} : Yields (Reading.fail problem) cursor good := by
  intro found after hread
  cases hread

theorem bind {reading : Reading β} {next : β → Reading α} {between : β → Cursor → Prop}
    (h : Yields reading cursor between)
    (hnext : ∀ item after, between item after → Yields (next item) after good) :
    Yields (reading >>= next) cursor good := by
  intro found after hread
  obtain ⟨⟨item, middle⟩, hitem, hrest⟩ := bind_eq_ok_iff.mp hread
  exact hnext item middle (h item middle hitem) found after hrest

/-- Go on after a reading that only looks. -/
theorem look {reading : Reading β} {value : β} {next : β → Reading α}
    (hlook : reading cursor = .ok (value, cursor)) (h : Yields (next value) cursor good) :
    Yields (reading >>= next) cursor good := by
  intro found after hread
  obtain ⟨⟨item, middle⟩, hitem, hrest⟩ := bind_eq_ok_iff.mp hread
  rw [hlook] at hitem
  cases hitem
  exact h found after hrest

theorem map {reading : Reading β} {change : β → α}
    (h : Yields reading cursor fun item after ↦ good (change item) after) :
    Yields (change <$> reading) cursor good := by
  intro found after hread
  obtain ⟨⟨item, middle⟩, hitem, hrest⟩ := bind_eq_ok_iff.mp hread
  cases hrest
  exact h item after hitem

theorem ite {condition : Prop} [Decidable condition] {yes no : Reading α}
    (hyes : Yields yes cursor good) (hno : Yields no cursor good) :
    Yields (if condition then yes else no) cursor good := by
  split
  · exact hyes
  · exact hno

theorem fail_bind {problem : GrammarProblem} {next : β → Reading α} :
    Yields (Reading.fail problem >>= next) cursor good := by
  intro found after hread
  cases hread

/-- Go on where a condition holds that must. -/
theorem require {condition : Prop} [Decidable condition] {problem : GrammarProblem}
    {rest : Unit → Reading α} (h : Yields (rest ()) cursor good) :
    Yields (if condition then rest () else Reading.fail problem >>= rest) cursor good :=
  .ite h .fail_bind

/-- Go on where a condition fails that must not hold. -/
theorem refuse {condition : Prop} [Decidable condition] {problem : GrammarProblem}
    {rest : Unit → Reading α} (h : Yields (rest ()) cursor good) :
    Yields (if condition then Reading.fail problem >>= rest else rest ()) cursor good :=
  .ite .fail_bind h

end Yields

/-! ### Readings one after the other -/

/-- A reading that only looks goes over nothing. -/
theorem reads_look {reading : Reading α}
    (h : ∀ cursor, ∃ item, reading cursor = .ok (item, cursor)) :
    Reads false reading fun _ ↦ [] := by
  intro cursor hcursor item after hread
  obtain ⟨found, hfound⟩ := h cursor
  rw [hfound] at hread
  cases hread
  exact .refl hcursor

namespace Reads

variable {taken before : Bool} {reading : Reading α} {row : α → List Construct}
  {start cursor : Cursor} {rows : List Construct} {good : β → Cursor → Prop}

theorem mayTake (h : Reads taken reading row) : Reads false reading row :=
  fun cursor hcursor item after hread ↦ (h cursor hcursor item after hread).mayTake

theorem forget (h : Reads taken reading row) : Reads false reading fun _ ↦ [] :=
  fun cursor hcursor item after hread ↦ (h cursor hcursor item after hread).forget

/-- End with a reading. -/
theorem last (h : Reads taken reading row) (hbefore : start.Read before cursor rows) :
    Yields reading cursor fun item after ↦
      start.Read (before || taken) after (rows ++ row item) :=
  fun item after hread ↦ hbefore.trans (h cursor hbefore.ordered item after hread)

/-- Go on after a reading, with what has been read before. -/
theorem next (h : Reads taken reading row) (hbefore : start.Read before cursor rows)
    {rest : α → Reading β}
    (hrest : ∀ item after, start.Read (before || taken) after (rows ++ row item) →
      Yields (rest item) after good) : Yields (reading >>= rest) cursor good :=
  (h.last hbefore).bind hrest

/-- Go on after a reading that goes over no constructs. -/
theorem pass (h : Reads taken reading fun _ ↦ []) (hbefore : start.Read before cursor rows)
    {rest : α → Reading β}
    (hrest : ∀ item after, start.Read (before || taken) after rows →
      Yields (rest item) after good) : Yields (reading >>= rest) cursor good :=
  h.next hbefore fun item after hafter ↦ hrest item after (by rwa [List.append_nil] at hafter)

section

variable {condition : Bool} {rest : Option α → Reading β}

/-- Go on after a reading that is made if there is a reason to. -/
theorem nextIf (h : Reads taken reading row) (hbefore : start.Read before cursor rows)
    (rowOf : Option α → List Construct) (hnone : rowOf none = [])
    (hsome : ∀ item, rowOf (some item) = row item)
    (hrest : ∀ item after, start.Read before after (rows ++ rowOf item) →
      Yields (rest item) after good) :
    Yields (if condition then some <$> reading >>= rest else pure none >>= rest) cursor good := by
  have hread : Yields (some <$> reading) cursor fun item after ↦
      start.Read before after (rows ++ rowOf item) := by
    refine .map fun item after hitem ↦ ?_
    show start.Read before after (rows ++ rowOf (some item))
    rw [hsome]
    exact hbefore.extend (h cursor hbefore.ordered item after hitem)
  refine .ite (hread.bind hrest) (.look rfl (hrest none cursor ?_))
  rwa [hnone, List.append_nil]

theorem optional {construct : α → Construct} (h : Reads taken reading fun item ↦ [construct item])
    (hbefore : start.Read before cursor rows)
    (hrest : ∀ item after, start.Read before after (rows ++ item.toList.map construct) →
      Yields (rest item) after good) :
    Yields (if condition then some <$> reading >>= rest else pure none >>= rest) cursor good :=
  h.nextIf hbefore _ rfl (fun _ ↦ rfl) hrest

theorem passIf (h : Reads taken reading fun _ ↦ []) (hbefore : start.Read before cursor rows)
    (hrest : ∀ item after, start.Read before after rows → Yields (rest item) after good) :
    Yields (if condition then some <$> reading >>= rest else pure none >>= rest) cursor good :=
  h.nextIf hbefore (fun _ ↦ []) rfl (fun _ ↦ rfl) fun item after hitem ↦
    hrest item after (by rwa [List.append_nil] at hitem)

end

/-- Go on after a step that is taken if there is a reason to. -/
theorem passWhen {step : Reading Unit} (h : Reads taken step fun _ ↦ [])
    (hbefore : start.Read before cursor rows) {condition : Prop} [Decidable condition]
    {rest : Unit → Reading β}
    (hrest : ∀ after, start.Read before after rows → Yields (rest ()) after good) :
    Yields (if condition then step >>= rest else rest ()) cursor good := by
  refine .ite (.bind (h cursor hbefore.ordered) fun _ after hafter ↦ hrest after ?_)
    (hrest cursor hbefore)
  simpa using hbefore.extend hafter

theorem manyUpTo {starts : Reading Bool} (hstarts : Reads false starts fun _ ↦ [])
    (h : Reads taken reading row) (bound : Nat) :
    Reads false (manyUpTo starts reading bound) fun items ↦ items.flatMap row := by
  induction bound with
  | zero => exact fun cursor hcursor ↦ .pure (.refl hcursor)
  | succ bound ih =>
      intro cursor hcursor
      refine hstarts.pass (.refl hcursor) fun go _ hgo ↦ .ite ?_ (.pure hgo)
      refine h.next hgo fun first _ hfirst ↦ ?_
      exact ih.next hfirst fun rest _ hrest ↦ .pure hrest.mayTake

theorem many {starts : Reading Bool} (hstarts : Reads false starts fun _ ↦ [])
    (h : Reads taken reading row) :
    Reads false (many starts reading) fun items ↦ items.flatMap row :=
  fun cursor hcursor ↦ .look rfl (manyUpTo hstarts h _ cursor hcursor)

theorem manyOf {construct : α → Construct} {starts : Reading Bool}
    (hstarts : Reads false starts fun _ ↦ [])
    (h : Reads taken reading fun item ↦ [construct item]) :
    Reads false (Reading.many starts reading) fun items ↦ items.map construct := by
  simpa only [List.map_eq_flatMap] using many hstarts h

end Reads

/-! ### Readings of one token -/

theorem yields_advance {cursor : Cursor} (h : cursor.Ordered) :
    Yields advance cursor fun _ after ↦ cursor.Read cursor.current?.isSome after [] ∧
      ∀ token, cursor.current? = some token → after.consumed = token.span.stop := by
  intro item after hread
  obtain ⟨source, length, hlength, ahead, consumed⟩ := cursor
  match ahead, h, hread with
  | [], h, hread =>
      cases hread
      exact ⟨.refl h, nofun⟩
  | .fault start problem :: rest, h, hread =>
      cases hread
      exact ⟨.refl h, nofun⟩
  | .token token :: rest, h, hread =>
      obtain ⟨ahead, hsettle, hread⟩ := bind_eq_ok_iff.mp hread
      cases hread
      have hahead : Cursor.Ordered ⟨source, length, hlength, ahead, token.span.stop⟩ :=
        Lexeme.between_settle h.2 hsettle
      have hle := Nat.le_trans h.1 token.span_le
      refine ⟨⟨hahead, rfl, ?_, hle, fun _ ↦ token.span_le, .inl rfl, fun hspelled ↦ ?_⟩, ?_⟩
      · exact Nat.le_trans token.span_le hahead.consumed_le
      · refine ⟨fun other hother ↦ hspelled other ?_, List.forall_mem_nil _⟩
        exact List.mem_cons_of_mem _ (Lexeme.mem_of_mem_settle hsettle hother)
      · intro other hother
        cases hother
        rfl

/-- Where there is a token, it is taken. -/
theorem yields_advance_of_isSome {cursor : Cursor} (h : cursor.Ordered)
    (htoken : cursor.current?.isSome) :
    Yields advance cursor fun _ after ↦ cursor.Read true after [] := by
  intro item after hread
  have hafter := (yields_advance h item after hread).1
  rwa [htoken] at hafter

theorem reads_advance : Reads false advance fun _ ↦ [] :=
  fun _ hcursor item after hread ↦ (yields_advance hcursor item after hread).1.forget

/-- A name is taken from a token that is one. -/
theorem yields_nameOr_of {problem : GrammarProblem} {cursor : Cursor} {good : Name → Cursor → Prop}
    (h : ∀ token, cursor.current? = some token → token.kind = .name →
      Yields advance cursor fun _ after ↦ good ⟨token.word, token.span⟩ after) :
    Yields (nameOr problem) cursor good := by
  refine .look rfl ?_
  cases htoken : cursor.current? with
  | none => exact .fail
  | some token =>
      by_cases hkind : token.kind = .name
      · simp only [if_pos hkind]
        exact (h token htoken hkind).bind fun _ _ hafter ↦ .pure hafter
      · simp only [if_neg hkind]
        exact .fail

/-- A mark is taken where the current token is one. -/
theorem yields_accept_of {kind : TokenKind} {cursor : Cursor} {good : Bool → Cursor → Prop}
    (hfound : ∀ token, cursor.current? = some token → token.kind = kind →
      Yields advance cursor fun _ after ↦ good true after)
    (hnone : good false cursor) : Yields (accept kind) cursor good := by
  have hlook : at? kind cursor = .ok (cursor.current?.map Token.kind == some kind, cursor) := rfl
  refine .look hlook ?_
  by_cases hsame : cursor.current?.map Token.kind = some kind
  · rw [if_pos (beq_iff_eq.mpr hsame)]
    obtain ⟨token, htoken, hkind⟩ := Option.map_eq_some_iff.mp hsame
    exact (hfound token htoken hkind).bind fun _ _ hafter ↦ .pure hafter
  · rw [if_neg (by simpa using hsame)]
    exact .pure hnone

theorem yields_close_of {mark : ClosingMark} {cursor : Cursor} {good : Unit → Cursor → Prop}
    (h : ∀ token, cursor.current? = some token → token.kind = closingKind mark →
      Yields advance cursor good) : Yields (close mark) cursor good := by
  refine .look rfl ?_
  cases htoken : cursor.current? with
  | none => exact .fail
  | some token =>
      by_cases hkind : token.kind = closingKind mark
      · simp only [if_pos hkind]
        exact h token htoken hkind
      · simp only [if_neg hkind]
        exact .fail

/-- A name has the range that is read. -/
theorem yields_nameOr (problem : GrammarProblem) {cursor : Cursor} (h : cursor.Ordered) :
    Yields (nameOr problem) cursor fun name after ↦
      name.span = ⟨cursor.offset, after.consumed⟩ ∧ cursor.Read true after [] := by
  refine yields_nameOr_of fun token htoken _ item after hread ↦ ?_
  obtain ⟨hafter, hstop⟩ := yields_advance h item after hread
  rw [htoken] at hafter
  have hoffset : cursor.offset = token.start := by rw [Cursor.offset, htoken]
  rw [hoffset, hstop token htoken]
  exact ⟨rfl, hafter⟩

theorem reads_nameOr (problem : GrammarProblem) : Reads true (nameOr problem) fun _ ↦ [] :=
  fun _ hcursor item after hread ↦ (yields_nameOr problem hcursor item after hread).2

theorem reads_name : Reads true name fun _ ↦ [] := reads_nameOr .name

/-- A name has the characters of the token that is read. -/
theorem spelled_nameOr (problem : GrammarProblem) {cursor : Cursor} (h : cursor.Spelled) :
    Yields (nameOr problem) cursor fun name _ ↦ name.Spelled := by
  refine yields_nameOr_of fun token htoken hkind _ _ _ ↦ ?_
  show IsName token.word.toList
  rw [Token.word, String.toList_ofList]
  exact h token (Cursor.mem_of_current? htoken) hkind

/-- A name can stand for a construct that has no other range. -/
theorem Reads.ofName (problem : GrammarProblem) {construct : Name → Construct}
    (hspan : ∀ name, (construct name).span? = some name.span)
    (hparts : ∀ name, (construct name).parts = [])
    (hname : ∀ name, name.Spelled → (construct name).NameSpelled) :
    Reads true (nameOr problem) fun name ↦ [construct name] := by
  intro cursor hcursor name after hread
  obtain ⟨hrange, h⟩ := yields_nameOr problem hcursor name after hread
  exact h.enclose (hrange ▸ hspan name) (hparts name) fun hspelled ↦
    hname name (spelled_nameOr problem hspelled name after hread)

theorem reads_namedType (problem : GrammarProblem) :
    Reads true (nameOr problem) fun name ↦ [.namedType name] :=
  .ofName problem (fun _ ↦ rfl) (fun _ ↦ rfl) fun _ h ↦ h

theorem reads_at (kind : TokenKind) : Reads false (at? kind) fun _ ↦ [] :=
  reads_look fun _ ↦ ⟨_, rfl⟩

theorem reads_currentName : Reads false currentName fun _ ↦ [] := by
  intro cursor hcursor
  refine .look rfl ?_
  split
  · exact .pure (.refl hcursor)
  · exact .pure (.refl hcursor)

theorem reads_atWord (word : String) : Reads false (atWord? word) fun _ ↦ [] :=
  fun _ hcursor ↦ reads_currentName.pass (.refl hcursor) fun _ _ h ↦ .pure h

theorem reads_accept (kind : TokenKind) : Reads false (accept kind) fun _ ↦ [] :=
  fun cursor hcursor ↦ yields_accept_of (fun _ _ _ ↦ reads_advance cursor hcursor) (.refl hcursor)

theorem reads_close (mark : ClosingMark) : Reads true (close mark) fun _ ↦ [] := by
  intro cursor hcursor
  refine yields_close_of fun token htoken _ ↦ yields_advance_of_isSome hcursor ?_
  rw [htoken]
  rfl

theorem reads_separated {separator : TokenKind} {item : Reading α}
    (hitem : Reads true item fun _ ↦ []) : Reads false (separated separator item) fun _ ↦ [] := by
  intro cursor hcursor
  refine (reads_accept separator).pass (.refl hcursor) fun _ _ h ↦ ?_
  refine hitem.pass h fun first _ h ↦ ?_
  have hmore : Reads true (do advance; item) fun _ ↦ [] := fun _ hcursor ↦
    reads_advance.pass (.refl hcursor) fun _ _ h ↦ hitem.last h
  exact ((reads_at separator).many hmore).forget.pass h fun rest _ h ↦ .pure h.forget

end Reading

end QueryLint.Language
