import QueryLint.Json.Value
import QueryLint.Number.Decimal

/-!
# Writing JSON

`Json.render` writes a value without blanks. Doubles are written with the fewest digits that read
back, and with a point or an exponent, so they stay apart from integers.
-/

namespace QueryLint.Json

/-- The digits of four hexadecimal places. -/
def hexFour (n : Nat) : List Char :=
  [n / 4096 % 16, n / 256 % 16, n / 16 % 16, n % 16].map Nat.digitChar

/-- A character inside a written string. -/
def escaped (c : Char) : List Char :=
  match c with
  | '"' => ['\\', '"']
  | '\\' => ['\\', '\\']
  | '\n' => ['\\', 'n']
  | '\r' => ['\\', 'r']
  | '\t' => ['\\', 't']
  | _ => if c.toNat < 0x20 then '\\' :: 'u' :: hexFour c.toNat else [c]

/-- A string between quotes. -/
def renderString (text : String) : String :=
  String.ofList ('"' :: text.toList.flatMap escaped ++ ['"'])

/-- A double stands without an exponent if it has at most sixteen digits before the point and at
most four zeros between the point and its digits. -/
def doubleExtent : Decimal.Extent := ⟨16, 4⟩

/-- A number. -/
def renderNumber : JsonNumber → String
  | .integer value => toString value
  | .double negative magnitude =>
    (if negative then "-" else "") ++ (Decimal.shortest magnitude).render doubleExtent

mutual
/-- A value without blanks between its parts. -/
def render : Json → String
  | null => "null"
  | bool value => if value then "true" else "false"
  | number value => renderNumber value
  | string value => renderString value
  | array items => "[" ++ String.intercalate "," (renderItems items) ++ "]"
  | object members => "\x7b" ++ String.intercalate "," (renderMembers members) ++ "\x7d"

/-- The written items of an array. -/
def renderItems : List Json → List String
  | [] => []
  | item :: rest => item.render :: renderItems rest

/-- The written members of an object. -/
def renderMembers : List (String × Json) → List String
  | [] => []
  | (name, value) :: rest => (renderString name ++ ":" ++ value.render) :: renderMembers rest
end

end QueryLint.Json
