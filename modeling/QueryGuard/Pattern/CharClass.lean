import QueryGuard.Text.Blank
import QueryGuard.Text.Case
import QueryGuard.Text.WordChar

/-!
# QueryGuard.Pattern.CharClass

The classes of characters that patterns are made of.  All but the word characters and the letters
are plain sets; a letter stands for all its case forms.
-/

namespace QueryGuard

/-- A class of characters. -/
inductive CharClass
  /-- The character itself and its other case forms. -/
  | letter (c : Char)
  /-- The blanks. -/
  | blank
  /-- Letters, digits and numerals of all scripts, and the underscore. -/
  | word
  /-- ASCII letters in any case form, ASCII digits, and the underscore. -/
  | identifier
  /-- All characters but the line feed. -/
  | notNewline
  /-- All characters. -/
  | any
deriving DecidableEq, Repr

/-- Whether a class has a character. -/
def CharClass.has : CharClass → Char → Bool
  | .letter c, d => Text.fold c == Text.fold d
  | .blank, d => Text.isBlank d
  | .word, d => Text.isWord d
  | .identifier, d => Text.isIdentifier d
  | .notNewline, d => d != '\n'
  | .any, _ => true

/-- Whether a class has the character at one side of a position; the end of the text is in no
class. -/
def CharClass.hasAt (k : CharClass) : Option Char → Bool
  | some c => k.has c
  | none => false

end QueryGuard
