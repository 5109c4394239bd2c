import QueryGuard.Binary64.Layout
import QueryGuard.Json.Basic
import QueryGuard.Text.Hex

/-!
# QueryGuard.Json.Printer

The two written forms of JSON: compact, on one line without spaces, and indented, each item of a
list or object on a line of its own, two spaces further in than the line that opens it, and empty
lists and objects as `[]` and `\x7b\x7d`.

In both forms the quote, the backslash and the characters below U+0020 are escaped and all others
stand as they are.
-/

namespace QueryGuard.Json

/-! ## texts -/

/-- One character between the quotes. -/
def escape (c : Char) : String :=
  if c = '\x22' then "\\\""
  else if c = '\\' then "\\\\"
  else if c = '\n' then "\\n"
  else if c = '\r' then "\\r"
  else if c = '\t' then "\\t"
  else if c = '\x08' then "\\b"
  else if c = '\x0c' then "\\f"
  else if c.toNat < 0x20 then "\\u" ++ String.ofList (Text.Hex.padded 4 c.toNat)
  else c.toString

/-- A text between quotes. -/
def quote (s : String) : String := s.toList.foldl (fun acc c => acc ++ escape c) "\"" ++ "\""

/-! ## numbers -/

/-- The text of a whole number. -/
def number (n : Int) : String := toString n

/-- Fractions are plain from `0.00001` on, and a power of ten has as few digits as can be. -/
def fractionStyle : NumberStyle where
  plainFrom := -5
  exponentWidth := 1
  infinite := "Infinity"
  undefined := "NaN"

/-- The text of a fraction. -/
def fraction (x : Binary64) : String := String.ofList (x.layout fractionStyle)

/-! ## the compact form -/

mutual

/-- The compact form of a value. -/
def compact : Json → String
  | null => "null"
  | bool true => "true"
  | bool false => "false"
  | int n => number n
  | real x => fraction x
  | text s => quote s
  | list items => "[" ++ ",".intercalate (compactItems items) ++ "]"
  | object fields => "\x7b" ++ ",".intercalate (compactFields fields) ++ "\x7d"

/-- The compact forms of the items of a list. -/
def compactItems : List Json → List String
  | [] => []
  | item :: items => compact item :: compactItems items

/-- The compact forms of the fields of an object. -/
def compactFields : List (String × Json) → List String
  | [] => []
  | (name, value) :: fields => (quote name ++ ":" ++ compact value) :: compactFields fields

end

/-! ## the indented form -/

/-- The break before a line `depth` levels in. -/
def lineBreak (depth : Nat) : String := "\n" ++ "".pushn ' ' (2 * depth)

/-- Parts between an opening and a closing mark, each on its line. -/
def enclosed (depth : Nat) (opening closing : String) (parts : List String) : String :=
  if parts.isEmpty then opening ++ closing
  else opening ++ lineBreak (depth + 1) ++ ("," ++ lineBreak (depth + 1)).intercalate parts ++
    lineBreak depth ++ closing

mutual

/-- The indented form of a value that stands `depth` levels in. -/
def indentedAt (depth : Nat) : Json → String
  | null => "null"
  | bool true => "true"
  | bool false => "false"
  | int n => number n
  | real x => fraction x
  | text s => quote s
  | list items => enclosed depth "[" "]" (indentedItems (depth + 1) items)
  | object fields => enclosed depth "\x7b" "\x7d" (indentedFields (depth + 1) fields)

/-- The indented forms of the items of a list. -/
def indentedItems (depth : Nat) : List Json → List String
  | [] => []
  | item :: items => indentedAt depth item :: indentedItems depth items

/-- The indented forms of the fields of an object. -/
def indentedFields (depth : Nat) : List (String × Json) → List String
  | [] => []
  | (name, value) :: fields =>
      (quote name ++ ": " ++ indentedAt depth value) :: indentedFields depth fields

end

/-- The indented form of a value. -/
def indented (value : Json) : String := indentedAt 0 value

end QueryGuard.Json
