import QueryGuard.Json.Token

/-!
# QueryGuard.Json.Reader

JSON text as a value.

```
value  = scalar | "[" (value ("," value)*)? "]" | "{" (field ("," field)*)? "}"
field  = text ":" value
```

Of fields with equal names in an object the last one counts.
-/

namespace QueryGuard.Json

/-- What encloses the value that is read next, with what was read of it before, the last part
first. -/
inductive Frame
  /-- A list, with its items. -/
  | list (items : List Json)
  /-- An object, with its fields and the name of the field to come. -/
  | object (fields : List (String × Json)) (name : String)

/-- The object of fields, of which there may be several with one name. -/
def ofFields (fields : List (String × Json)) : Json :=
  .object (fields.foldr
    (fun field rest => if rest.any (·.1 == field.1) then rest else field :: rest) [])

/-- Reads the rest of a value within frames, the innermost first; `value?` is the part that was
completed last, unless a value must come next. -/
def ofTokens? : List Frame → Option Json → List Token → Option Json
  | frames, none, .scalar value :: rest => ofTokens? frames (some value) rest
  | frames, none, .openList :: .closeList :: rest => ofTokens? frames (some (.list [])) rest
  | frames, none, .openList :: rest => ofTokens? (.list [] :: frames) none rest
  | frames, none, .openObject :: .closeObject :: rest => ofTokens? frames (some (.object [])) rest
  | frames, none, .openObject :: .scalar (.text name) :: .colon :: rest =>
      ofTokens? (.object [] name :: frames) none rest
  | .list items :: frames, some value, .comma :: rest =>
      ofTokens? (.list (value :: items) :: frames) none rest
  | .list items :: frames, some value, .closeList :: rest =>
      ofTokens? frames (some (.list (value :: items).reverse)) rest
  | .object fields name :: frames, some value, .comma :: .scalar (.text next) :: .colon :: rest =>
      ofTokens? (.object ((name, value) :: fields) next :: frames) none rest
  | .object fields name :: frames, some value, .closeObject :: rest =>
      ofTokens? frames (some (.ofFields ((name, value) :: fields).reverse)) rest
  | [], some value, [] => some value
  | _, _, _ => none

/-- Reads a value. -/
def parse? (s : String) : Option Json := do ofTokens? [] none (← Token.ofText? s)

end QueryGuard.Json
