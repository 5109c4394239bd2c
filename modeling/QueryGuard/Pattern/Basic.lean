import QueryGuard.Pattern.CharClass

/-!
# QueryGuard.Pattern.Basic

Patterns of text and what they match.

A pattern describes a piece of a text together with conditions on the characters beside the piece.
`Matches p before piece after` says that `p` describes `piece` where it stands in the text
`before ++ piece ++ after`; the three conditions `unlessAfter`, `unlessBefore` and `edge` describe
the empty piece and look at the characters beside it.

How a match is found is the subject of `QueryGuard.Pattern.Search`.
-/

namespace QueryGuard

/-- A pattern of text. -/
inductive Pattern
  /-- Describes nothing. -/
  | never
  /-- The empty piece. -/
  | empty
  /-- One character of a class. -/
  | one (k : CharClass)
  /-- A piece of the first pattern, then one of the second. -/
  | seq (p q : Pattern)
  /-- A piece of one of two patterns. -/
  | alt (p q : Pattern)
  /-- Any number of pieces of a pattern in a row. -/
  | many (p : Pattern)
  /-- The empty piece, unless a character of the class stands before it. -/
  | unlessAfter (k : CharClass)
  /-- The empty piece, unless a character of the class stands after it. -/
  | unlessBefore (k : CharClass)
  /-- The empty piece between a word character and something else. -/
  | edge
deriving DecidableEq, Repr

namespace Pattern

/-- `Matches p before piece after`: the pattern `p` describes `piece` between `before` and
`after`. -/
inductive Matches : Pattern → List Char → List Char → List Char → Prop
  | empty {before after} : Matches .empty before [] after
  | one {k c before after} (has : k.has c = true) : Matches (.one k) before [c] after
  | seq {p q before m n after} (first : Matches p before m (n ++ after))
      (second : Matches q (before ++ m) n after) : Matches (.seq p q) before (m ++ n) after
  | left {p q before m after} (here : Matches p before m after) :
      Matches (.alt p q) before m after
  | right {p q before m after} (here : Matches q before m after) :
      Matches (.alt p q) before m after
  | done {p before after} : Matches (.many p) before [] after
  | more {p before m n after} (first : Matches p before m (n ++ after))
      (rest : Matches (.many p) (before ++ m) n after) : Matches (.many p) before (m ++ n) after
  | unlessAfter {k before after} (hasNot : k.hasAt before.getLast? = false) :
      Matches (.unlessAfter k) before [] after
  | unlessBefore {k before after} (hasNot : k.hasAt after.head? = false) :
      Matches (.unlessBefore k) before [] after
  | edge {before after}
      (differ : CharClass.word.hasAt before.getLast? ≠ CharClass.word.hasAt after.head?) :
      Matches .edge before [] after

/-! ## patterns made of others -/

/-- Two patterns in a row, without an empty first part. -/
def join : Pattern → Pattern → Pattern
  | .empty, q => q
  | p, q => .seq p q

/-- Several patterns in a row. -/
def inRow : List Pattern → Pattern
  | [] => .empty
  | [p] => p
  | p :: ps => .seq p (inRow ps)

/-- One of several patterns. -/
def anyOf : List Pattern → Pattern
  | [] => .never
  | [p] => p
  | p :: ps => .alt p (anyOf ps)

/-- At least one piece of a pattern. -/
def oneOrMore (p : Pattern) : Pattern := .seq p (.many p)

/-- A piece of a pattern, or nothing. -/
def optional (p : Pattern) : Pattern := .alt p .empty

/-- A fixed text in any letter case. -/
def text (s : String) : Pattern := inRow (s.toList.map fun c => .one (.letter c))

/-- One of several fixed texts in any letter case. -/
def oneOf (texts : List String) : Pattern := anyOf (texts.map text)

/-- Any number of blanks. -/
def blanks : Pattern := .many (.one .blank)

/-- At least one blank. -/
def someBlanks : Pattern := oneOrMore (.one .blank)

/-- Any text. -/
def anything : Pattern := .many (.one .any)

/-- Any text without a line feed. -/
def restOfLine : Pattern := .many (.one .notNewline)

end Pattern

end QueryGuard
