/-!
# QueryGuard.Text.Utf8

Texts as byte strings in UTF-8, and what is wrong with a byte string that is no text.

```
character = 00-7F
          | C2-DF tail
          | E0 A0-BF tail | E1-EC tail tail | ED 80-9F tail | EE-EF tail tail
          | F0 90-BF tail tail | F1-F3 tail tail tail | F4 80-8F tail tail
tail      = 80-BF
```
-/

namespace QueryGuard.Text.Utf8

/-- Why a byte string is no text. -/
inductive Flaw
  /-- So many bytes from an index on begin no character. -/
  | invalid (length index : Nat)
  /-- The bytes end within the character that begins at an index. -/
  | incomplete (index : Nat)
deriving DecidableEq, Repr

/-- What is told of a flaw. -/
def Flaw.message : Flaw → String
  | invalid length index =>
      "invalid utf-8 sequence of " ++ toString length ++ " bytes from index " ++ toString index
  | incomplete index => "incomplete utf-8 byte sequence from index " ++ toString index

/-- The beginning of a character: the number of its bytes, the bits they hold, how many more bytes
there must be, and the range of the next one. -/
structure Pending where
  length : Nat
  bits : Nat
  missing : Nat
  low : Nat := 0x80
  high : Nat := 0xBF
deriving DecidableEq, Repr

/-- What a byte begins, if it begins a character of several bytes. -/
def pending? (b : Nat) : Option Pending :=
  if b < 0xC2 then none
  else if b < 0xE0 then some { length := 1, bits := b - 0xC0, missing := 1 }
  else if b = 0xE0 then some { length := 1, bits := 0, missing := 2, low := 0xA0 }
  else if b = 0xED then some { length := 1, bits := 0xD, missing := 2, high := 0x9F }
  else if b < 0xF0 then some { length := 1, bits := b - 0xE0, missing := 2 }
  else if b = 0xF0 then some { length := 1, bits := 0, missing := 3, low := 0x90 }
  else if b < 0xF4 then some { length := 1, bits := b - 0xF0, missing := 3 }
  else if b = 0xF4 then some { length := 1, bits := 4, missing := 3, high := 0x8F }
  else none

/-- A byte string read in part: the characters, the last one first, the number of bytes, and the
character that has begun. -/
structure Reading where
  characters : List Char
  count : Nat
  begun? : Option Pending
deriving DecidableEq, Repr

namespace Reading

/-- Reads one more byte. -/
def step (r : Reading) (byte : UInt8) : Except Flaw Reading :=
  let b := byte.toNat
  let count := r.count + 1
  match r.begun? with
  | none =>
      if b < 0x80 then .ok ⟨Char.ofNat b :: r.characters, count, none⟩
      else match pending? b with
        | some begun => .ok ⟨r.characters, count, some begun⟩
        | none => .error (.invalid 1 r.count)
  | some begun =>
      if b < begun.low ∨ begun.high < b then
        .error (.invalid begun.length (r.count - begun.length))
      else
        let bits := begun.bits * 0x40 + b % 0x40
        if begun.missing = 1 then .ok ⟨Char.ofNat bits :: r.characters, count, none⟩
        else .ok ⟨r.characters, count,
          some { length := begun.length + 1, bits, missing := begun.missing - 1 }⟩

/-- The text that was read, if it is complete. -/
def finish (r : Reading) : Except Flaw (List Char) :=
  match r.begun? with
  | some begun => .error (.incomplete (r.count - begun.length))
  | none => .ok r.characters.reverse

end Reading

/-- Reads a byte string. -/
def decode (bytes : List UInt8) : Except Flaw (List Char) :=
  bytes.foldlM Reading.step ⟨[], 0, none⟩ >>= Reading.finish

end QueryGuard.Text.Utf8
