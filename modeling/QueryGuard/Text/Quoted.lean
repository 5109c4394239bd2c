import QueryGuard.Text.Hex
import QueryGuard.Text.Printable

/-!
# QueryGuard.Text.Quoted

Quoted text for logs and messages.  Single quotes are used, or double quotes for a text that holds
a single quote and no double quote.  The backslash and the quote in use are escaped, and so is
every character without a shape of its own.
-/

namespace QueryGuard.Text.Quoted

/-- The single quote. -/
def single : Char := '\x27'

/-- The double quote. -/
def double : Char := '\x22'

/-- The quote that surrounds a text. -/
def quoteFor (s : List Char) : Char :=
  if s.contains single && !s.contains double then double else single

/-- One character between the quotes. -/
def escape (quote c : Char) : List Char :=
  if c = '\\' ∨ c = quote then ['\\', c]
  else if c = '\n' then ['\\', 'n']
  else if c = '\r' then ['\\', 'r']
  else if c = '\t' then ['\\', 't']
  else if isPrintable c then [c]
  else if c.toNat < 0x100 then '\\' :: 'x' :: Hex.padded 2 c.toNat
  else if c.toNat < 0x10000 then '\\' :: 'u' :: Hex.padded 4 c.toNat
  else '\\' :: 'U' :: Hex.padded 8 c.toNat

/-- A text between quotes. -/
def encode (s : List Char) : List Char :=
  let quote := quoteFor s
  quote :: s.flatMap (escape quote) ++ [quote]

end QueryGuard.Text.Quoted
