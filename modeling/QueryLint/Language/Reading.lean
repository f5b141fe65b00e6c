import QueryLint.Language.Lexeme
import QueryLint.Language.Document

/-!
# Reading lexemes

A `Cursor` stands at the current token of a text. A `Reading α` moves it forward over tokens and
yields an `α`, or stops at the first problem. The token after a consumed one is looked at as soon as
the cursor moves, so characters that form no token are reported before any problem of the grammar at
or after them.
-/

namespace QueryLint.Language

/-- A place between two tokens of a text. -/
structure Cursor where
  /-- The whole text. -/
  source : List Char
  /-- The length of the text in bytes. -/
  length : Nat
  length_eq : length = Text.byteLength source
  /-- What is still to be read. The first lexeme, if any, is the current token. -/
  ahead : List Lexeme
  /-- The offset after the last token that was consumed. -/
  consumed : Nat

/-- The lexemes from the next token on: commas are left out, and a fault ends the reading. -/
def Cursor.settle : List Lexeme → Except SyntaxError (List Lexeme)
  | [] => .ok []
  | .fault start problem :: _ => .error ⟨start, .lexical problem⟩
  | .token token :: rest =>
    if token.kind = .comma then settle rest else .ok (.token token :: rest)

/-- The cursor at the first token of a text. -/
def Cursor.ofText (source : List Char) : Except SyntaxError Cursor := do
  let ahead ← Cursor.settle (Lexeme.ofText source)
  pure ⟨source, Text.byteLength source, rfl, ahead, 0⟩

/-- The current token, `none` at the end of the text. -/
def Cursor.current? (cursor : Cursor) : Option Token :=
  match cursor.ahead with
  | .token token :: _ => some token
  | _ => none

/-- The offset of the current token; at the end of the text, the text's length in bytes. -/
def Cursor.offset (cursor : Cursor) : Nat :=
  match cursor.current? with
  | some token => token.start
  | none => cursor.length

/-- The number of bytes after the last token that was consumed. -/
def Cursor.remaining (cursor : Cursor) : Nat :=
  cursor.length - cursor.consumed

/-- The token after the current one. Commas count here, and characters that form no token are
passed over. -/
def Cursor.second? (cursor : Cursor) : Option Token :=
  cursor.ahead.tail.findSome? fun
    | .token token => some token
    | .fault _ _ => none

/-- A step that moves a cursor forward, or stops at the first problem. -/
abbrev Reading (α : Type) := StateT Cursor (Except SyntaxError) α

namespace Reading

/-- Stop with a problem of the grammar at the current token. -/
def fail {α : Type} (problem : GrammarProblem) : Reading α :=
  fun cursor ↦ .error ⟨cursor.offset, .grammar problem⟩

/-- The current token. -/
def current : Reading (Option Token) := do
  return (← get).current?

/-- The kind of the current token. -/
def currentKind : Reading (Option TokenKind) := do
  return (← current).map Token.kind

/-- The characters of the current token if it is a name. -/
def currentName : Reading (Option String) := do
  match ← current with
  | some token => return if token.kind = .name then some token.word else none
  | none => return none

/-- The characters of the token after the current one. -/
def secondWord : Reading (Option String) := do
  return (← get).second?.map Token.word

/-- The kind of the token after the current one. -/
def secondKind : Reading (Option TokenKind) := do
  return (← get).second?.map Token.kind

/-- The offset of the current token. -/
def offset : Reading Nat := do
  return (← get).offset

/-- Move past the current token. -/
def advance : Reading Unit := fun cursor ↦
  match cursor.ahead with
  | .token token :: rest => do
    let ahead ← Cursor.settle rest
    pure ((), { cursor with ahead, consumed := token.span.stop })
  | _ => pure ((), cursor)

/-- The range from `start` to the end of the last token consumed. -/
def spanFrom (start : Nat) : Reading Span := do
  return ⟨start, (← get).consumed⟩

/-- The source text of a range. -/
def sourceText (span : Span) : Reading String := do
  return String.ofList (Text.slice span (← get).source)

/-- Whether the current token is of this kind. -/
def at? (kind : TokenKind) : Reading Bool := do
  return (← currentKind) == some kind

/-- Whether the current token is this name. -/
def atWord? (word : String) : Reading Bool := do
  return (← currentName) == some word

/-- Consume the current token if it is of this kind, and tell whether it was. -/
def accept (kind : TokenKind) : Reading Bool := do
  if ← at? kind then
    advance
    return true
  else return false

/-- The kind of token that a closing mark is. -/
def closingKind : ClosingMark → TokenKind
  | .brace => .closeBrace
  | .paren => .closeParen
  | .bracket => .closeBracket

/-- Consume a closing mark. -/
def close (mark : ClosingMark) : Reading Unit := do
  match ← current with
  | some token =>
    if token.kind = closingKind mark then advance else fail (.closing mark token.word)
  | none => fail (.closing mark "EOF")

/-- Consume a name, or report `problem`. -/
def nameOr (problem : GrammarProblem) : Reading Name := do
  match ← current with
  | some token =>
    if token.kind = .name then
      advance
      return ⟨token.word, token.span⟩
    else fail problem
  | none => fail problem

/-- Consume a name. -/
def name : Reading Name :=
  nameOr .name

/-- Read as many items as begin where `starts` holds, at most `bound` of them. -/
def manyUpTo {α : Type} (starts : Reading Bool) (item : Reading α) : Nat → Reading (List α)
  | 0 => return []
  | bound + 1 => do
    if ← starts then
      let first ← item
      let rest ← manyUpTo starts item bound
      return first :: rest
    else return []

/-- Read items as long as they begin where `starts` holds. Every item takes a token, so the number
of bytes that remain bounds their number. -/
def many {α : Type} (starts : Reading Bool) (item : Reading α) : Reading (List α) := do
  manyUpTo starts item (← get).remaining

/-- Read items between `separator`s, the first of which may come before the first item. -/
def separated {α : Type} (separator : TokenKind) (item : Reading α) : Reading (List α) := do
  let _ ← accept separator
  let first ← item
  let rest ← many (at? separator) do
    advance
    item
  return first :: rest

end Reading

end QueryLint.Language
