import QueryGuard.Pattern.Search
import QueryGuard.Query.Clean
import QueryGuard.Query.Verdict

/-!
# QueryGuard.Query.Gate

The gate that a text passes before it runs as a single read.  Its rules are tried in a fixed order
and the first that is broken decides:

1. the text is not blank;
2. it is not longer than `maxQueryLength`;
3. its cleaned copy is not empty;
4. the cleaned copy begins with a reading verb;
5. no denied keyword is a token of the cleaned copy;
6. no refused shape occurs in the text;
7. the cleaned copy has one statement;
8. no function that turns numbers into text is called in the text.
-/

namespace QueryGuard

/-- The keywords and shapes that a gate looks for. -/
structure Policy where
  keywords : List String
  shapes : List Shape

/-- All denied keywords and all shapes. -/
def Policy.standard : Policy := ⟨deniedKeywords, Shape.all⟩

namespace Query

/-! ## the single tests -/

/-- Whether a text begins with a reading verb. -/
def hasLeadingVerb (s : List Char) : Bool := leadingVerb.startsIn s

/-- Whether a word is a token of a text. -/
def hasKeyword (word : String) (s : List Char) : Bool := (keyword word).occursIn s

/-- Whether a shape occurs in a text. -/
def hasShape (shape : Shape) (s : List Char) : Bool := shape.pattern.occursIn s

/-- Whether a function that turns numbers into text is called in a text. -/
def hasCharConversion (s : List Char) : Bool := charConversion.occursIn s

/-! ## the gate -/

/-- The first of rules 4 to 8 that is broken, where the rules on the cleaned copy look at `copy`
and the others at `query`. -/
def violationIn? (policy : Policy) (copy query : List Char) : Option Rule :=
  if !hasLeadingVerb copy then some .leadingVerb
  else if let some word := policy.keywords.find? (hasKeyword · copy) then some (.keyword word)
  else if let some shape := policy.shapes.find? (hasShape · query) then some (.shape shape)
  else if 1 < (statements copy).length then some .multiStatement
  else if hasCharConversion query then some .charConversion
  else none

/-- The first rule that a text breaks when `copyOf` makes the copy that is looked at in its
place. -/
def violationWith? (policy : Policy) (copyOf : List Char → List Char) (query : List Char) :
    Option Rule :=
  if Text.allBlank query then some .empty
  else if maxQueryLength < query.length then some .length
  else
    let copy := copyOf query
    if copy.isEmpty then some .commentOnly else violationIn? policy copy query

/-- The first rule that a text breaks. -/
def violation? (policy : Policy) (query : List Char) : Option Rule :=
  violationWith? policy clean query

/-- The verdict on a text under a policy. -/
def judgeUnder (policy : Policy) (query : List Char) : Verdict :=
  match violation? policy query with
  | some rule => .rejected rule
  | none => .accepted

/-- The verdict on a text. -/
def judge (query : List Char) : Verdict := judgeUnder .standard query

end Query

end QueryGuard
