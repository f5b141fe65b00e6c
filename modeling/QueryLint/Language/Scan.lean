import QueryLint.Language.Token

/-!
# The extent of one lexeme

`Scan.lexeme c rest` decides what the characters from `c` on begin with: how many of `rest` belong
to the same lexeme, and which token or problem it is. Numbers and strings are read by small
machines; a problem in a string does not end it, and of several the last one is kept.
-/

namespace QueryLint.Language

/-- A lexeme found at some place: it takes `more` characters after its first. -/
structure Scan where
  more : Nat
  outcome : Except LexicalProblem TokenKind
  deriving Repr

namespace Scan

/-- The same lexeme seen from `count` characters earlier. -/
def after (count : Nat) (scan : Scan) : Scan :=
  { scan with more := scan.more + count }

/-- The lexeme is a token that takes no more characters. -/
def done (kind : TokenKind) : Scan := ⟨0, .ok kind⟩

/-- No token: a problem that takes `more` further characters. -/
def bad (more : Nat) (problem : LexicalProblem) : Scan := ⟨more, .error problem⟩

/-! ## Character classes -/

/-- A letter of the Latin alphabet or the underscore. -/
def isNameStart (c : Char) : Bool :=
  c.isAlpha || c == '_'

/-- A character that can begin a name, or a digit. -/
def isNameChar (c : Char) : Bool :=
  isNameStart c || c.isDigit

/-- The two characters that end a line. -/
def isLineEnd (c : Char) : Bool :=
  c == '\n' || c == '\r'

/-- The mark between a number and its exponent. -/
def isExponentMark (c : Char) : Bool :=
  c == 'e' || c == 'E'

/-- The value of a hexadecimal digit. -/
def hexValue? (c : Char) : Option Nat :=
  if c.isDigit then some (c.toNat - '0'.toNat)
  else if 'a' ≤ c ∧ c ≤ 'f' then some (c.toNat - 'a'.toNat + 10)
  else if 'A' ≤ c ∧ c ≤ 'F' then some (c.toNat - 'A'.toNat + 10)
  else none

/-! ## Numbers -/

/-- The end of a number with a fraction or an exponent. -/
def floatEnd : List Char → Scan
  | [] => done .float
  | c :: _ => if c == '.' || isNameStart c then bad 1 (.floatSuffix c) else done .float

/-- The digits of an exponent, the first of which is already seen. -/
def exponentDigits (cs : List Char) : Scan :=
  (floatEnd (cs.dropWhile Char.isDigit)).after (cs.takeWhile Char.isDigit).length

/-- What follows the sign of an exponent. -/
def afterExponentSign : List Char → Scan
  | [] => bad 0 .floatAtEnd
  | c :: cs => if c.isDigit then (exponentDigits cs).after 1 else bad 1 (.exponentDigit c)

/-- What follows an exponent mark. -/
def afterExponentMark : List Char → Scan
  | [] => bad 0 .floatAtEnd
  | c :: cs =>
    if c.isDigit then (exponentDigits cs).after 1
    else if c == '+' || c == '-' then (afterExponentSign cs).after 1
    else bad 1 (.exponentDigitOrSign c)

/-- What follows the digits of a fraction. -/
def afterFraction : List Char → Scan
  | [] => done .float
  | c :: cs => if isExponentMark c then (afterExponentMark cs).after 1 else floatEnd (c :: cs)

/-- What follows the point of a number. -/
def afterPoint : List Char → Scan
  | [] => bad 0 .floatAtEnd
  | c :: cs =>
    if c.isDigit then
      (afterFraction (cs.dropWhile Char.isDigit)).after (1 + (cs.takeWhile Char.isDigit).length)
    else bad 1 (.fractionalDigit c)

/-- What follows the integer part of a number. -/
def afterInteger : List Char → Scan
  | [] => done .int
  | c :: cs =>
    if c == '.' then (afterPoint cs).after 1
    else if isExponentMark c then (afterExponentMark cs).after 1
    else if isNameStart c then bad 1 (.integerSuffix c)
    else done .int

/-- What follows the first digit of a number. -/
def afterDigit (first : Char) (cs : List Char) : Scan :=
  if first == '0' then
    match cs with
    | c :: _ => if c.isDigit then bad 1 .leadingZero else afterInteger cs
    | [] => afterInteger cs
  else
    (afterInteger (cs.dropWhile Char.isDigit)).after (cs.takeWhile Char.isDigit).length

/-- What follows a minus sign. -/
def afterMinus : List Char → Scan
  | [] => bad 0 .minusAtEnd
  | c :: cs => if c.isDigit then (afterDigit c cs).after 1 else bad 1 (.afterMinus c)

/-! ## Strings -/

/-- Where a reader stands inside a string. -/
inductive StringState where
  | plain
  /-- Just after a backslash. -/
  | escape
  /-- Inside `\uXXXX`: the digits still to come and the value so far. -/
  | digits (left : Nat) (value : Nat)
  /-- Inside `\u` with braces: the value so far, `none` before the first digit. -/
  | braces (value : Option Nat)
  /-- Just after the escape of a high surrogate. -/
  | highSurrogate (high : Nat)
  /-- After a high surrogate and a backslash. -/
  | pairEscape (high : Nat)
  /-- Inside the `\uXXXX` that completes a surrogate pair. -/
  | pairDigits (high : Nat) (left : Nat) (value : Nat)
  deriving DecidableEq, Repr

/-- What one character inside a string leads to. -/
inductive StringStep where
  /-- The character is the closing quote; a problem may show at it. -/
  | close (problem : Option LexicalProblem)
  /-- The string goes on; a problem may show at the character. -/
  | next (state : StringState) (problem : Option LexicalProblem)
  deriving DecidableEq, Repr

/-- The high halves of surrogate pairs. -/
def isHighSurrogate (value : Nat) : Bool := 0xd800 ≤ value && value ≤ 0xdbff

/-- The low halves of surrogate pairs. -/
def isLowSurrogate (value : Nat) : Bool := 0xdc00 ≤ value && value ≤ 0xdfff

/-- The state after the four digits of an escape are read. -/
def afterEscapeDigits (value : Nat) : StringStep :=
  if isHighSurrogate value then .next (.highSurrogate value) none
  else if isLowSurrogate value then .next .plain (some .unpairedSurrogate)
  else .next .plain none

/-- The state after the second escape of a surrogate pair is read. -/
def afterPairDigits (value : Nat) : StringStep :=
  .next .plain (if isLowSurrogate value then none else some .unpairedSurrogate)

/-- One character inside a string. -/
def stringStep (state : StringState) (c : Char) : StringStep :=
  match state with
  | .plain =>
    if c == '"' then .close none
    else if c == '\\' then .next .escape none
    else .next .plain (if isLineEnd c then some .lineTerminator else none)
  | .escape =>
    if c == 'u' then .next (.digits 4 0) none
    else .next .plain
      (if "\"\\/bfnrt".toList.contains c then none else some .escapedCharacter)
  | .digits left value =>
    if c == '"' then .close (some .incompleteUnicodeEscape)
    else if c == '\x7b' && left == 4 then .next (.braces none) none
    else match hexValue? c with
      | none => .next .plain (some .unicodeEscape)
      | some digit =>
        if left ≤ 1 then afterEscapeDigits (value * 16 + digit)
        else .next (.digits (left - 1) (value * 16 + digit)) none
  | .braces value =>
    if c == '"' then .close (some .incompleteUnicodeEscape)
    else if c == '\x7d' then
      .next .plain (if (value.getD 0xd800).isValidChar then none else some .notScalarValue)
    else match hexValue? c with
      | none => .next .plain (some .unicodeEscape)
      | some digit => .next (.braces (some (value.getD 0 * 16 + digit))) none
  | .highSurrogate high =>
    if c == '"' then .close (some .unpairedSurrogate)
    else if c == '\\' then .next (.pairEscape high) none
    else .next .plain (some .unpairedSurrogate)
  | .pairEscape high =>
    if c == 'u' then .next (.pairDigits high 4 0) none
    else .next .plain (some .unpairedSurrogate)
  | .pairDigits high left value =>
    if c == '"' then .close (some .incompleteUnicodeEscape)
    else match hexValue? c with
      | none => .next .plain (some .unicodeEscape)
      | some digit =>
        if left ≤ 1 then afterPairDigits (value * 16 + digit)
        else .next (.pairDigits high (left - 1) (value * 16 + digit)) none

/-- The characters after the opening quote, with the last problem met so far. -/
def stringRest (state : StringState) (problem : Option LexicalProblem) : List Char → Scan
  | [] => bad 0 .unterminatedString
  | c :: cs =>
    match stringStep state c with
    | .close found =>
      match found <|> problem with
      | none => ⟨1, .ok .string⟩
      | some last => bad 1 last
    | .next state found => (stringRest state (found <|> problem) cs).after 1

/-- The characters after the three quotes that open a block string. -/
def blockRest : List Char → Scan
  | [] => bad 0 .unterminatedString
  | '\\' :: '"' :: '"' :: '"' :: cs => (blockRest cs).after 4
  | '"' :: '"' :: '"' :: _ => ⟨3, .ok .string⟩
  | _ :: cs => (blockRest cs).after 1

/-- What follows an opening quote. A line end is no problem as the very first character. -/
def afterQuote : List Char → Scan
  | [] => bad 0 .loneQuote
  | '"' :: '"' :: cs => (blockRest cs).after 2
  | c :: cs =>
    if isLineEnd c then (stringRest .plain none cs).after 1 else stringRest .plain none (c :: cs)

/-! ## One lexeme -/

/-- What follows a point. -/
def afterFirstPoint : List Char → Scan
  | '.' :: '.' :: _ => ⟨2, .ok .spread⟩
  | _ :: _ => bad 1 .unterminatedSpread
  | [] => bad 0 .unterminatedSpread

/-- The lexeme that begins with `c`, followed by `rest`. -/
def lexeme (c : Char) (rest : List Char) : Scan :=
  match TokenKind.ofPunctuation? c with
  | some kind => done kind
  | none =>
    if isNameStart c then (done .name).after (rest.takeWhile isNameChar).length
    else if c.isDigit then afterDigit c rest
    else if c == '-' then afterMinus rest
    else if c == '"' then afterQuote rest
    else if c == '.' then afterFirstPoint rest
    else bad 0 (.unexpected c)

end Scan

end QueryLint.Language
