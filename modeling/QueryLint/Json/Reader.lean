import QueryLint.Json.Value

/-!
# Reading JSON

`Json.readFirst?` reads one value from the front of a text; `Json.read?` reads a whole text. Both
accept JSON only: no comments, no trailing commas, no byte order mark. Arrays and objects may nest
`nestingLimit` deep, and a `\u` escape of half a surrogate pair needs its other half.
-/

namespace QueryLint.Json

/-- A reader takes a value off the front of a text. -/
abbrev Reader (α : Type) := List Char → Option (α × List Char)

/-- How deep arrays and objects may nest. -/
def nestingLimit : Nat := 127

/-- The characters between the parts of a text. -/
def isBlank (c : Char) : Bool :=
  c == ' ' || c == '\n' || c == '\t' || c == '\r'

/-- A text without the blanks at its front. -/
def skipBlanks (cs : List Char) : List Char := cs.dropWhile isBlank

/-! ## Strings -/

/-- The value of a hexadecimal digit. -/
def hexDigit? (c : Char) : Option Nat :=
  if c.isDigit then some (c.toNat - '0'.toNat)
  else if 'a' ≤ c ∧ c ≤ 'f' then some (c.toNat - 'a'.toNat + 10)
  else if 'A' ≤ c ∧ c ≤ 'F' then some (c.toNat - 'A'.toNat + 10)
  else none

/-- The value of four hexadecimal digits. -/
def hexFour? (a b c d : Char) : Option Nat := do
  return (((← hexDigit? a) * 16 + (← hexDigit? b)) * 16 + (← hexDigit? c)) * 16 + (← hexDigit? d)

/-- The character that a letter after a backslash stands for. -/
def simpleEscape? : Char → Option Char
  | '"' => some '"'
  | '\\' => some '\\'
  | '/' => some '/'
  | 'b' => some '\x08'
  | 'f' => some '\x0c'
  | 'n' => some '\n'
  | 'r' => some '\r'
  | 't' => some '\t'
  | _ => none

/-- Put a character in front of a string that has been read. -/
def consChar (c : Char) : Option (List Char × List Char) → Option (List Char × List Char)
  | some (text, rest) => some (c :: text, rest)
  | none => none

/-- The characters of a string, from just after its opening quote. -/
def stringRest : Reader (List Char)
  | [] => none
  | '"' :: cs => some ([], cs)
  | '\\' :: 'u' :: a :: b :: c :: d :: cs =>
    match hexFour? a b c d with
    | none => none
    | some unit =>
      if unit < 0xd800 ∨ 0xdfff < unit then consChar (Char.ofNat unit) (stringRest cs)
      else if 0xdc00 ≤ unit then none
      else match cs with
        | '\\' :: 'u' :: e :: f :: g :: h :: cs =>
          match hexFour? e f g h with
          | none => none
          | some low =>
            if 0xdc00 ≤ low ∧ low ≤ 0xdfff then
              consChar (Char.ofNat (0x10000 + (unit - 0xd800) * 0x400 + (low - 0xdc00)))
                (stringRest cs)
            else none
        | _ => none
  | '\\' :: c :: cs =>
    match simpleEscape? c with
    | none => none
    | some value => consChar value (stringRest cs)
  | c :: cs => if c.toNat < 0x20 || c == '\\' then none else consChar c (stringRest cs)

/-- A string; the text begins with its opening quote. -/
def string? : Reader String
  | '"' :: cs => (stringRest cs).map fun (text, rest) ↦ (String.ofList text, rest)
  | _ => none

/-! ## Numbers -/

/-- The digits taken off the front of a text. -/
def digits (cs : List Char) : List Nat :=
  (cs.takeWhile Char.isDigit).map fun c ↦ c.toNat - '0'.toNat

/-- A text without the digits at its front. -/
def skipDigits (cs : List Char) : List Char := cs.dropWhile Char.isDigit

/-- The numbers below this one, `2 ^ 64`, are kept exactly. -/
def significandLimit : Nat := 0x10000000000000000

/-- The magnitude of the least integer of 64 bits, `2 ^ 63`. -/
def negativeLimit : Nat := 0x8000000000000000

/-- Take digits into a significand as long as it stays below the limit; how many were left out. -/
def takeDigits (significand : Nat) : List Nat → Nat × Nat
  | [] => (significand, 0)
  | digit :: rest =>
    if significand * 10 + digit < significandLimit then takeDigits (significand * 10 + digit) rest
    else (significand, rest.length + 1)

/-- Whether a text begins with an exponent mark. -/
def atExponent : List Char → Bool
  | 'e' :: _ | 'E' :: _ => true
  | _ => false

/-- A text without the sign of an exponent at its front, and whether the sign was a minus. -/
def exponentSign : List Char → Bool × List Char
  | '-' :: cs => (true, cs)
  | '+' :: cs => (false, cs)
  | cs => (false, cs)

/-- An exponent with its mark, if there is one. -/
def exponent? (cs : List Char) : Option (Int × List Char) :=
  if atExponent cs then
    let (negative, rest) := exponentSign cs.tail
    match digits rest with
    | [] => none
    | found =>
      let value : Nat := found.foldl (fun n digit ↦ n * 10 + digit) 0
      some (if negative then -(value : Int) else value, skipDigits rest)
  else some (0, cs)

/-- The double with a sign, a significand and a power of ten. -/
def double? (negative : Bool) (significand : Nat) (power : Int) : Option JsonNumber :=
  (Binary64.ofDecimal? significand power).map (.double negative)

/-- A number without fraction and exponent: an integer if it has a range of 64 bits. Minus zero is a
double. -/
def whole? (negative : Bool) (significand leftOut : Nat) : Option JsonNumber :=
  if leftOut = 0 ∧ negative = false then some (.integer significand)
  else if leftOut = 0 ∧ 0 < significand ∧ significand ≤ negativeLimit then
    some (.integer (-significand))
  else double? negative significand leftOut

/-- A number after its sign. Digits that no longer fit into the significand are left out; those of
the integer part still count for the power of ten. -/
def unsigned? (negative : Bool) (cs : List Char) : Option (JsonNumber × List Char) := do
  let whole := digits cs
  if whole.isEmpty || (whole.head? == some 0 && whole.length > 1) then none
  let (significand, leftOut) := takeDigits 0 whole
  match skipDigits cs with
  | '.' :: rest =>
    let places := digits rest
    if places.isEmpty then none
    let (significand, unused) := takeDigits significand places
    let (power, rest) ← exponent? (skipDigits rest)
    let shift : Int := leftOut - (places.length - unused : Nat)
    return (← double? negative significand (shift + power), rest)
  | rest =>
    if atExponent rest then
      let (power, rest) ← exponent? rest
      return (← double? negative significand (leftOut + power), rest)
    else return (← whole? negative significand leftOut, rest)

/-- A number. -/
def number? : Reader JsonNumber
  | '-' :: cs => unsigned? true cs
  | cs => unsigned? false cs

/-! ## Values -/

/-- A text without the word at its front. -/
def word? : List Char → List Char → Option (List Char)
  | [], cs => some cs
  | c :: word, d :: cs => if c = d then word? word cs else none
  | _ :: _, [] => none

/-- The items of an array from the one at the front on; `bound` limits their number. -/
def items? (item : Reader Json) : Nat → Reader (List Json)
  | 0, _ => none
  | bound + 1, cs => do
    let (first, rest) ← item cs
    match skipBlanks rest with
    | ',' :: rest =>
      let (others, rest) ← items? item bound (skipBlanks rest)
      return (first :: others, rest)
    | ']' :: rest => return ([first], rest)
    | _ => none

/-- The members of an object from the one at the front on; `bound` limits their number. -/
def members? (item : Reader Json) : Nat → Reader (List (String × Json))
  | 0, _ => none
  | bound + 1, cs => do
    let (name, rest) ← string? cs
    match skipBlanks rest with
    | ':' :: rest =>
      let (value, rest) ← item (skipBlanks rest)
      match skipBlanks rest with
      | ',' :: rest =>
        let (others, rest) ← members? item bound (skipBlanks rest)
        return ((name, value) :: others, rest)
      | '\x7d' :: rest => return ([(name, value)], rest)
      | _ => none
    | _ => none

/-- A value; the text begins with it. The parts of an array or object are read by `nested`, and none
may open where that is missing. -/
def valueWith? (nested : Option (Reader Json)) : Reader Json
  | '"' :: cs => (string? ('"' :: cs)).map fun (text, rest) ↦ (.string text, rest)
  | '[' :: cs =>
    nested.bind fun item ↦
      match skipBlanks cs with
      | ']' :: rest => some (.array [], rest)
      | rest => (items? item rest.length rest).map fun (items, rest) ↦ (.array items, rest)
  | '\x7b' :: cs =>
    nested.bind fun item ↦
      match skipBlanks cs with
      | '\x7d' :: rest => some (.object [], rest)
      | rest => (members? item rest.length rest).map fun (members, rest) ↦ (.object members, rest)
  | 't' :: cs => (word? ['r', 'u', 'e'] cs).map (Json.bool true, ·)
  | 'f' :: cs => (word? ['a', 'l', 's', 'e'] cs).map (Json.bool false, ·)
  | 'n' :: cs => (word? ['u', 'l', 'l'] cs).map (Json.null, ·)
  | cs => (number? cs).map fun (value, rest) ↦ (.number value, rest)

/-- A value in which arrays and objects nest at most `levels` deep. -/
def value? : Nat → Reader Json
  | 0 => valueWith? none
  | levels + 1 => valueWith? (some (value? levels))

/-- The first value of a text and the text after it. -/
def readFirst? (text : String) : Option (Json × List Char) :=
  value? nestingLimit (skipBlanks text.toList)

/-- The value that makes up a text. -/
def read? (text : String) : Option Json :=
  match readFirst? text with
  | some (value, rest) => if (skipBlanks rest).isEmpty then some value else none
  | none => none

end QueryLint.Json
