import QueryGuard.Query.Comment
import QueryGuard.Text.Blank

/-!
# QueryGuard.Query.Clean

The cleaned copy of a query, on which the checks of its first word, its keywords and its statements
are made: without line comments, then without the block comments of what is left, and with its
words joined by single spaces.
-/

namespace QueryGuard.Query

/-- The cleaned copy of a query. -/
def clean (query : List Char) : List Char :=
  Text.squeeze (dropBlockComments (dropLineComments query))

/-- The pieces between the semicolons of a text that are not blank. -/
def statements (s : List Char) : List (List Char) :=
  (s.splitOn ';').filter fun piece => !Text.allBlank piece

end QueryGuard.Query
