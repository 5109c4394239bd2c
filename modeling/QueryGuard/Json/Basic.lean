import QueryGuard.Binary64.Basic

/-!
# QueryGuard.Json.Basic

The values of JSON, with whole numbers and binary fractions apart and the fields of an object in
order.
-/

namespace QueryGuard

/-- A JSON value. -/
inductive Json
  | null
  | bool (b : Bool)
  | int (n : Int)
  | real (x : Binary64)
  | text (s : String)
  | list (items : List Json)
  | object (fields : List (String × Json))
deriving Inhabited

namespace Json

/-- The value of a field of an object. -/
def field? (name : String) : Json → Option Json
  | object fields => fields.lookup name
  | _ => none

/-- A value that may be missing, which is then `null`. -/
def ofOption {α : Type} (f : α → Json) : Option α → Json
  | some a => f a
  | none => null

/-- A text that may be missing. -/
def ofText? : Option String → Json := ofOption text

/-- A list of texts. -/
def texts (items : List String) : Json := list (items.map text)

end Json

end QueryGuard
