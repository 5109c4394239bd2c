import QueryGuard.Json.Basic
import QueryGuard.Text.Hex

/-!
# QueryGuard.Json.Token

The tokens of JSON text: marks, and the values that have no parts.

```
number = "-"? digits ("." digit+)? (("e" | "E") ("+" | "-")? digit+)?
digits = "0" | nonzero digit*
```

A number with neither a point nor a power of ten is whole, and every other one is a binary fraction.
Beside numbers there are the words `NaN`, `Infinity` and `-Infinity`.
-/

namespace QueryGuard.Json

/-- A token. -/
inductive Token
  | openList
  | closeList
  | openObject
  | closeObject
  | comma
  | colon
  | scalar (value : Json)

namespace Token

/-! ## words -/

/-- The number that decimal digits stand for. -/
def decimal (digits : List Char) : Nat :=
  digits.foldl (fun n c => 10 * n + (c.toNat - '0'.toNat)) 0

/-- Divides a text behind the digits it begins with, if there are any. -/
def digits? (s : List Char) : Option (List Char × List Char) :=
  match s.takeWhile Char.isDigit with
  | [] => none
  | digits => some (digits, s.dropWhile Char.isDigit)

/-- Divides a text behind its sign: whether there is a minus sign, and the rest. -/
def sign : List Char → Bool × List Char
  | '-' :: s => (true, s)
  | s => (false, s)

/-- Reads the digits behind a point, if there is one. -/
def places? : List Char → Option (List Char × List Char)
  | '.' :: s => digits? s
  | s => some ([], s)

/-- Reads a power of ten up to the end; without one it is zero. -/
def power? : List Char → Option Int
  | [] => some 0
  | e :: s => do
      if e ≠ 'e' ∧ e ≠ 'E' then none
      let (negative, s) := match s with
        | '+' :: s => (false, s)
        | s => sign s
      match ← digits? s with
      | (digits, []) =>
          some (if negative then -Int.ofNat (decimal digits) else Int.ofNat (decimal digits))
      | _ => none

/-- Reads a number. -/
def number? (s : List Char) : Option Json := do
  let (negative, s) := sign s
  let (whole, rest) ← digits? s
  if whole.head? = some '0' ∧ whole.length ≠ 1 then none
  match rest with
  | [] => some (.int (if negative then -Int.ofNat (decimal whole) else Int.ofNat (decimal whole)))
  | rest =>
      let (places, rest) ← places? rest
      let power ← power? rest
      some (.real (.ofDecimal negative (decimal (whole ++ places)) (power - places.length)))

/-- Reads a word. -/
def word? : String → Option Json
  | "null" => some .null
  | "true" => some (.bool true)
  | "false" => some (.bool false)
  | "NaN" => some (.real .undefined)
  | "Infinity" => some (.real (.infinite false))
  | "-Infinity" => some (.real (.infinite true))
  | word => number? word.toList

/-! ## texts -/

/-- The character that a letter behind a backslash stands for. -/
def escaped? : Char → Option Char
  | '\x22' => some '\x22'
  | '\\' => some '\\'
  | '/' => some '/'
  | 'b' => some '\x08'
  | 'f' => some '\x0c'
  | 'n' => some '\n'
  | 'r' => some '\r'
  | 't' => some '\t'
  | _ => none

/-- Whether a code is the first of two that stand for one character. -/
def isFirstHalf (code : Nat) : Bool := 0xD800 ≤ code && code < 0xDC00

/-- Whether a code is the second of two that stand for one character. -/
def isSecondHalf (code : Nat) : Bool := 0xDC00 ≤ code && code < 0xE000

/-- The character that two codes stand for. -/
def joined (first second : Nat) : Char :=
  Char.ofNat (0x10000 + (first - 0xD800) * 0x400 + (second - 0xDC00))

/-! ## one character after the other -/

/-- Where a reader stands. -/
inductive Place
  /-- Between tokens. -/
  | between
  /-- In a word. -/
  | word (read : String)
  /-- In a text, perhaps after the first half of a character. -/
  | text (read : String) (half? : Option Nat)
  /-- After a backslash in a text. -/
  | escape (read : String) (half? : Option Nat)
  /-- Within a code of four hexadecimal digits in a text. -/
  | code (read : String) (half? : Option Nat) (missing value : Nat)

/-- Text read in part. -/
structure Scan where
  tokens : Array Token
  place : Place

namespace Scan

/-- The reader at its start. -/
def start : Scan := ⟨#[], .between⟩

/-- Whether a character stands between tokens and means nothing. -/
def isBlank (c : Char) : Bool := c = ' ' || c = '\t' || c = '\n' || c = '\r'

/-- Reads a character that stands between tokens. -/
def begin (tokens : Array Token) (c : Char) : Scan :=
  if isBlank c then ⟨tokens, .between⟩
  else if c = '[' then ⟨tokens.push .openList, .between⟩
  else if c = ']' then ⟨tokens.push .closeList, .between⟩
  else if c = '\x7b' then ⟨tokens.push .openObject, .between⟩
  else if c = '\x7d' then ⟨tokens.push .closeObject, .between⟩
  else if c = ',' then ⟨tokens.push .comma, .between⟩
  else if c = ':' then ⟨tokens.push .colon, .between⟩
  else if c = '\x22' then ⟨tokens, .text "" none⟩
  else ⟨tokens, .word c.toString⟩

/-- Whether a character may stand within a word. -/
def isWordChar (c : Char) : Bool := c.isAlphanum || c = '-' || c = '+' || c = '.'

/-- Reads a character of a text. -/
def inText (tokens : Array Token) (read : String) (half? : Option Nat) (c : Char) :
    Option Scan :=
  if c = '\\' then some ⟨tokens, .escape read half?⟩
  else if half?.isSome || c.toNat < 0x20 then none
  else if c = '\x22' then some ⟨tokens.push (.scalar (.text read)), .between⟩
  else some ⟨tokens, .text (read.push c) none⟩

/-- Reads a complete code of a text. -/
def ofCode (tokens : Array Token) (read : String) (half? : Option Nat) (code : Nat) :
    Option Scan :=
  match half? with
  | some first =>
      if isSecondHalf code then some ⟨tokens, .text (read.push (joined first code)) none⟩
      else none
  | none =>
      if isFirstHalf code then some ⟨tokens, .text read (some code)⟩
      else if isSecondHalf code then none
      else some ⟨tokens, .text (read.push (Char.ofNat code)) none⟩

/-- Reads a character. -/
def step (scan : Scan) (c : Char) : Option Scan :=
  match scan with
  | ⟨tokens, .between⟩ => some (begin tokens c)
  | ⟨tokens, .word read⟩ =>
      if isWordChar c then some ⟨tokens, .word (read.push c)⟩
      else (word? read).map fun value => begin (tokens.push (.scalar value)) c
  | ⟨tokens, .text read half?⟩ => inText tokens read half? c
  | ⟨tokens, .escape read half?⟩ =>
      if c = 'u' then some ⟨tokens, .code read half? 4 0⟩
      else if half?.isSome then none
      else (escaped? c).map fun found => ⟨tokens, .text (read.push found) none⟩
  | ⟨tokens, .code read half? missing value⟩ => do
      let value := 16 * value + (← Text.Hex.digitValue? c)
      if missing = 1 then ofCode tokens read half? value
      else some ⟨tokens, .code read half? (missing - 1) value⟩

/-- The tokens that were read, if the last of them is complete. -/
def finish : Scan → Option (Array Token)
  | ⟨tokens, .between⟩ => some tokens
  | ⟨tokens, .word read⟩ => (word? read).map fun value => tokens.push (.scalar value)
  | _ => none

end Scan

/-- Reads the tokens of a text. -/
def ofText? (s : String) : Option (List Token) := do
  let scan ← s.toList.foldlM Scan.step Scan.start
  return (← scan.finish).toList

end Token

end QueryGuard.Json
