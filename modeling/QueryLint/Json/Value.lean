import QueryLint.Number.Binary64

/-!
# JSON values

A `Json` keeps what a text says: integers apart from other numbers, and the members of an object in
their order, repeated names included. `Json.normalize` gives the value that the text stands for,
with the members sorted by name and the last of several under one name.
-/

namespace QueryLint

/-- A number: an integer, or a double given by its sign and its magnitude. -/
inductive JsonNumber where
  | integer (value : Int)
  | double (negative : Bool) (magnitude : Binary64)
  deriving DecidableEq, Repr, Inhabited

/-- A JSON value as written. -/
inductive Json where
  | null
  | bool (value : Bool)
  | number (value : JsonNumber)
  | string (value : String)
  | array (items : List Json)
  | object (members : List (String × Json))
  deriving Repr, Inhabited

namespace Json

/-- Put a member into a sorted list, in the place of one of the same name. -/
def insertSorted (name : String) (value : Json) : List (String × Json) → List (String × Json)
  | [] => [(name, value)]
  | member :: rest =>
    if name = member.1 then (name, value) :: rest
    else if name < member.1 then (name, value) :: member :: rest
    else member :: insertSorted name value rest

mutual
/-- The value that a text stands for. -/
def normalize : Json → Json
  | array items => array (normalizeItems items)
  | object members => object (normalizeMembers [] members)
  | value => value

/-- The values that the items of an array stand for. -/
def normalizeItems : List Json → List Json
  | [] => []
  | item :: rest => item.normalize :: normalizeItems rest

/-- Put the members of an object into a sorted list, one after the other. -/
def normalizeMembers (sorted : List (String × Json)) : List (String × Json) → List (String × Json)
  | [] => sorted
  | (name, value) :: rest => normalizeMembers (insertSorted name value.normalize sorted) rest
end

/-- The value of a member of an object. -/
def member? (name : String) : Json → Option Json
  | object members => members.lookup name
  | _ => none

end Json

end QueryLint
