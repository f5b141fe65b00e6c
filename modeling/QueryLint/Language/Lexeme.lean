import QueryLint.Language.Scan

/-!
# The lexemes of a text

`Lexeme.ofText cs` lists what the text `cs` holds, from the first byte to the last. Blanks and
comments are left out. Reading goes on after characters that form no token, so the list also shows
what stands behind a fault.
-/

namespace QueryLint.Language

/-- The characters between tokens: tab, the two line ends, space and the byte order mark. -/
def isIgnored (c : Char) : Bool :=
  c == '\t' || c == '\n' || c == '\r' || c == ' ' || c == '\ufeff'

namespace Lexeme

/-- The lexemes from byte `offset` on. The first `pending` characters belong to a lexeme or a
comment that is already read. -/
def listFrom (offset pending : Nat) : List Char → List Lexeme
  | [] => []
  | c :: cs =>
    let following := offset + c.utf8Size
    match pending with
    | pending + 1 => listFrom following pending cs
    | 0 =>
      if isIgnored c then listFrom following 0 cs
      else if c == '#' then
        listFrom following (cs.takeWhile fun d ↦ !Scan.isLineEnd d).length cs
      else
        let scan := Scan.lexeme c cs
        let rest := listFrom following scan.more cs
        match scan.outcome with
        | .ok kind => .token ⟨kind, c :: cs.take scan.more, offset⟩ :: rest
        | .error problem => .fault offset problem :: rest

/-- The lexemes of a whole text. -/
def ofText (cs : List Char) : List Lexeme :=
  listFrom 0 0 cs

end Lexeme

end QueryLint.Language
