import QueryGuard.Json.Basic
import QueryGuard.Text.Hex
import QueryGuard.Text.Utf8

/-!
# QueryGuard.Value

The values that the engine delivers.
-/

namespace QueryGuard

/-- A value in a column of a row. -/
inductive Value
  | null
  | bool (b : Bool)
  | int (n : Int)
  | real (x : Binary64)
  | text (s : String)
  /-- A byte string. -/
  | blob (bytes : List UInt8)
  /-- A view of bytes that something else holds. -/
  | view (bytes : List UInt8)
deriving DecidableEq, Repr

namespace Value

/-- Whether a value counts as yes in a column of flags or positions: it is neither missing, nor
zero, nor empty. -/
def isTruthy : Value → Bool
  | null => false
  | bool b => b
  | int n => n != 0
  | real x => !x.isZero
  | text s => !s.isEmpty
  | blob bytes | view bytes => !bytes.isEmpty

/-- The value as it appears in a row of an answer: bytes as their hexadecimal text, and every other
value as it is. -/
def presentable : Value → Value
  | blob bytes | view bytes => text (String.ofList (Text.Hex.encode bytes))
  | v => v

/-- The text that bytes are in UTF-8, and their hexadecimal text if they are none. -/
def textOfBytes (bytes : List UInt8) : String :=
  match Text.Utf8.decode bytes with
  | .ok characters => String.ofList characters
  | .error _ => String.ofList (Text.Hex.encode bytes)

/-- The JSON form of a value. -/
def toJson : Value → Json
  | null => .null
  | bool b => .bool b
  | int n => .int n
  | real x => .real x
  | text s => .text s
  | blob bytes | view bytes => .text (textOfBytes bytes)

end Value

end QueryGuard
