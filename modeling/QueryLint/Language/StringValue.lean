import QueryLint.Language.Scan

/-!
# The value of a string token

A quoted string stands for its characters with the escapes replaced. A block string stands for its
lines without the indentation they share and without the blank lines at its two ends.
-/

namespace QueryLint.Language.StringValue

open Scan

/-! ## Quoted strings -/

/-- The character that a letter after a backslash stands for. -/
def simpleEscape (c : Char) : Char :=
  match c with
  | 'b' => '\x08'
  | 'f' => '\x0c'
  | 'n' => '\n'
  | 'r' => '\r'
  | 't' => '\t'
  | _ => c

/-- The code point of a surrogate pair. -/
def pairValue (high low : Nat) : Nat :=
  0x10000 + (high - 0xd800) * 0x400 + (low - 0xdc00)

/-- The character that is complete once `c` is read. -/
def completed (state : StringState) (c : Char) : Option Char :=
  let extended (value : Nat) := value * 16 + (hexValue? c).getD 0
  match state with
  | .plain => if c == '\\' then none else some c
  | .escape => if c == 'u' then none else some (simpleEscape c)
  | .digits left value =>
    if left ≤ 1 && !isHighSurrogate (extended value) then some (Char.ofNat (extended value))
    else none
  | .braces value => if c == '\x7d' then value.map Char.ofNat else none
  | .highSurrogate _ | .pairEscape _ => none
  | .pairDigits high left value =>
    if left ≤ 1 then some (Char.ofNat (pairValue high (extended value))) else none

/-- The characters that a quoted string stands for, from just after its opening quote. -/
def quotedRest (state : StringState) : List Char → List Char
  | [] => []
  | c :: cs =>
    match stringStep state c with
    | .close _ => []
    | .next following _ => (completed state c).toList ++ quotedRest following cs

/-! ## Block strings -/

/-- The characters of a block string from just after its opening quotes up to its closing ones; an
escaped triple quote loses its backslash. -/
def blockText : List Char → List Char
  | [] => []
  | '\\' :: '"' :: '"' :: '"' :: cs => '"' :: '"' :: '"' :: blockText cs
  | '"' :: '"' :: '"' :: _ => []
  | c :: cs => c :: blockText cs

/-- Put a character at the front of the first line. -/
def consLine (c : Char) : List (List Char) → List (List Char)
  | [] => [[c]]
  | line :: lines => (c :: line) :: lines

/-- The lines of a text. Each of LF, CR LF and CR ends a line. -/
def lines : List Char → List (List Char)
  | [] => [[]]
  | '\r' :: '\n' :: cs => [] :: lines cs
  | c :: cs => if isLineEnd c then [] :: lines cs else consLine c (lines cs)

/-- The characters that indent a line. -/
def isIndent (c : Char) : Bool := c == ' ' || c == '\t'

/-- The indentation of a line, `none` if there is nothing else in it. -/
def indentation? (line : List Char) : Option Nat :=
  let indent := (line.takeWhile isIndent).length
  if indent < line.length then some indent else none

/-- The indentation that all the lines share, blank ones apart. -/
def sharedIndentation (lines : List (List Char)) : Nat :=
  ((lines.filterMap indentation?).min?).getD 0

/-- The lines with the indentation shared by all but the first taken away. -/
def dedent : List (List Char) → List (List Char)
  | [] => []
  | first :: rest => first :: rest.map (List.drop (sharedIndentation rest))

/-- Whether a line holds nothing but indentation. -/
def isBlankLine (line : List Char) : Bool := line.all isIndent

/-- Drop the blank lines at the two ends. -/
def trimLines (lines : List (List Char)) : List (List Char) :=
  ((lines.dropWhile isBlankLine).reverse.dropWhile isBlankLine).reverse

/-- The characters that a block string stands for, from just after its opening quotes. -/
def blockRest (cs : List Char) : List Char :=
  List.intercalate ['\n'] (trimLines (dedent (lines (blockText cs))))

/-! ## Tokens -/

/-- The value of a string token, given with its quotes. -/
def ofToken (token : String) : String :=
  String.ofList <|
    match token.toList with
    | '"' :: '"' :: '"' :: cs => blockRest cs
    | '"' :: cs => quotedRest .plain cs
    | cs => cs

end QueryLint.Language.StringValue
