import QueryGuard.Pattern.Basic

/-!
# QueryGuard.Pattern.Search

Search for a pattern in one pass over the text.

The search keeps the set of patterns that could complete the matches begun so far.  Reading a
character replaces each of them by its *residues*, the patterns of what may still follow, and at
each position the pattern sought is added anew, since a match may begin anywhere.  A match is found
as soon as one of the patterns describes the empty piece.
-/

namespace QueryGuard.Pattern

/-- Whether a pattern describes the empty piece between two characters. -/
def describesEmpty (prev next : Option Char) : Pattern → Bool
  | .never => false
  | .empty => true
  | .one _ => false
  | .seq p q => describesEmpty prev next p && describesEmpty prev next q
  | .alt p q => describesEmpty prev next p || describesEmpty prev next q
  | .many _ => true
  | .unlessAfter k => !k.hasAt prev
  | .unlessBefore k => !k.hasAt next
  | .edge => CharClass.word.hasAt prev != CharClass.word.hasAt next

/-- What may follow the character `c`, read after `prev`, in a piece of a pattern. -/
def residues (prev : Option Char) (c : Char) : Pattern → List Pattern
  | .one k => if k.has c then [.empty] else []
  | .seq p q =>
      let here := (residues prev c p).map (join · q)
      if describesEmpty prev (some c) p then here ++ residues prev c q else here
  | .alt p q => residues prev c p ++ residues prev c q
  | .many p => (residues prev c p).map (join · (.many p))
  | .never | .empty | .unlessAfter _ | .unlessBefore _ | .edge => []

/-- The patterns that remain of a set of patterns once `c` is read. -/
def advance (prev : Option Char) (c : Char) (live : List Pattern) : List Pattern :=
  (live.flatMap (residues prev c)).eraseDups

/-- Whether a piece that begins here, described by a pattern of `live`, lies ahead. -/
def completes (live : List Pattern) (prev : Option Char) : List Char → Bool
  | [] => live.any (describesEmpty prev none)
  | c :: cs =>
      live.any (describesEmpty prev (some c)) ||
        completes (advance prev c live) (some c) cs

/-- Whether a match begun earlier, which a pattern of `live` completes, or one that begins here or
later lies ahead. -/
def searchFrom (p : Pattern) (live : List Pattern) (prev : Option Char) : List Char → Bool
  | [] => (p :: live).any (describesEmpty prev none)
  | c :: cs =>
      (p :: live).any (describesEmpty prev (some c)) ||
        searchFrom p (advance prev c (p :: live)) (some c) cs

/-- Whether a pattern describes some piece of a text. -/
def occursIn (p : Pattern) (s : List Char) : Bool := searchFrom p [] none s

/-- Whether a pattern describes some piece at the start of a text. -/
def startsIn (p : Pattern) (s : List Char) : Bool := completes [p] none s

end QueryGuard.Pattern
