import QueryLint.Text.Span
import QueryLint.Language.Problem

/-!
# Tokens

A `Lexeme` is what one place of a text holds: a token, or characters that form none. Blanks and
comments are not lexemes; a comma is one, because the reader of selections can see it.
-/

namespace QueryLint.Language

/-- The kinds of token. -/
inductive TokenKind where
  | bang
  | dollar
  | amp
  | openParen
  | closeParen
  | colon
  | openBracket
  | closeBracket
  | equals
  | atSign
  | pipe
  | openBrace
  | closeBrace
  | spread
  | comma
  | name
  | int
  | float
  | string
  deriving DecidableEq, Repr

/-- The token that a single character forms by itself. -/
def TokenKind.ofPunctuation? : Char → Option TokenKind
  | '!' => some bang
  | '$' => some dollar
  | '&' => some amp
  | '(' => some openParen
  | ')' => some closeParen
  | ':' => some colon
  | '[' => some openBracket
  | ']' => some closeBracket
  | '=' => some equals
  | '@' => some atSign
  | '|' => some pipe
  | '{' => some openBrace
  | '}' => some closeBrace
  | ',' => some comma
  | _ => none

/-- A token: its kind, its characters and the offset of the first of them. -/
structure Token where
  kind : TokenKind
  text : List Char
  start : Nat
  deriving DecidableEq, Repr

/-- The bytes that a token takes. -/
def Token.span (token : Token) : Span :=
  ⟨token.start, token.start + Text.byteLength token.text⟩

/-- The characters of a token as a string. -/
def Token.word (token : Token) : String :=
  String.ofList token.text

/-- What stands at one place of a text. -/
inductive Lexeme where
  | token (token : Token)
  /-- Characters from offset `start` on that form no token. -/
  | fault (start : Nat) (problem : LexicalProblem)
  deriving DecidableEq, Repr

end QueryLint.Language
