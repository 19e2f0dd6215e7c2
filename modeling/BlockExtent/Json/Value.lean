/-!
# JSON values

## Main definitions

* `Json` — a JSON value.
* `Json.member?` — a member of an object.
-/

namespace BlockExtent

/-- A JSON value.  Numbers are binary64 numbers, and the members of an object
keep their order. -/
inductive Json where
  /-- `null`. -/
  | null
  /-- `true` or `false`. -/
  | bool (b : Bool)
  /-- A number. -/
  | number (x : Float)
  /-- A string. -/
  | string (s : String)
  /-- An array. -/
  | array (items : List Json)
  /-- An object. -/
  | object (members : List (String × Json))

namespace Json

/-- The first member of an object with a name. -/
def member? (name : String) : Json → Option Json
  | .object members => members.lookup name
  | _ => none

end Json

end BlockExtent
