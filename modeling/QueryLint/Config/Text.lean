import QueryLint.Config.Decode
import QueryLint.Json.Reader

/-!
# Configurations from JSON texts

A text is read up to the end of its first value. If that value is no configuration, what follows it
does not matter; if it is one, nothing but blanks may follow.
-/

namespace QueryLint

/-- The ways in which a text fails to be a configuration. -/
inductive ConfigTextError where
  | notJson
  | notConfig (cause : DecodeError)

/-- The configuration that a JSON text gives. -/
def Config.ofText (text : String) : Except ConfigTextError Config :=
  match Json.readFirst? text with
  | none => .error .notJson
  | some (value, rest) =>
    match decode value with
    | .error cause => .error (.notConfig cause)
    | .ok config => if (Json.skipBlanks rest).isEmpty then .ok config else .error .notJson

end QueryLint
