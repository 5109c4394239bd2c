/-!
# QueryGuard.Query.Comment

The two kinds of comment of a query, and their removal:

```
line comment   = "--" up to, but without, the next line feed or the end of the text
block comment  = "/*" up to and with the next "*/" that does not overlap it
```

A block comment that is never closed is no comment.  Each removal reads the text from left to right
and leaves nothing where a comment was.
-/

namespace QueryGuard.Query

/-! ## line comments -/

/-- What stands from the next line feed on. -/
def fromNewline (s : List Char) : List Char := s.dropWhile (· != '\n')

theorem length_fromNewline_le (s : List Char) : (fromNewline s).length ≤ s.length :=
  (List.dropWhile_suffix _).length_le

/-- The text without its line comments. -/
def dropLineComments : List Char → List Char
  | [] => []
  | '-' :: '-' :: cs => dropLineComments (fromNewline cs)
  | c :: cs => c :: dropLineComments cs
termination_by s => s.length
decreasing_by
  · have := length_fromNewline_le cs
    simp only [List.length_cons]
    omega
  · simp

/-! ## block comments -/

/-- What stands after the next `*/`, if there is one. -/
def afterClose? : List Char → Option (List Char)
  | '*' :: '/' :: cs => some cs
  | _ :: cs => afterClose? cs
  | [] => none

/-- What is behind the close of a comment is shorter than the text. -/
theorem length_afterClose?_lt {s rest : List Char} (h : afterClose? s = some rest) :
    rest.length < s.length := by
  fun_induction afterClose? s with
  | case1 cs => cases h; simp only [List.length_cons]; omega
  | case2 c cs _ ih => have := ih h; simp only [List.length_cons]; omega
  | case3 => simp at h

/-- The text without its block comments. -/
def dropBlockComments : List Char → List Char
  | [] => []
  | '/' :: '*' :: cs =>
      match _ : afterClose? cs with
      | some rest => dropBlockComments rest
      | none => '/' :: '*' :: cs
  | c :: cs => c :: dropBlockComments cs
termination_by s => s.length
decreasing_by
  · have := length_afterClose?_lt ‹_›
    simp only [List.length_cons]
    omega
  · simp

end QueryGuard.Query
