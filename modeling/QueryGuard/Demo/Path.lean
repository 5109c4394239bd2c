/-!
# QueryGuard.Demo.Path

Absolute paths in normal form: names with a slash before each, none of them empty, `.` or `..`.  A
path that begins with exactly two slashes keeps both.
-/

namespace QueryGuard.Demo

/-- An absolute path in normal form. -/
structure Path where
  doubleRoot : Bool
  names : List (List Char)
deriving DecidableEq, Repr

namespace Path

/-- Goes one name further: `.` and the empty name stay, and `..` goes up as far as the root. -/
def enter (names : List (List Char)) (name : List Char) : List (List Char) :=
  if name = [] ∨ name = ['.'] then names
  else if name = ['.', '.'] then names.dropLast
  else names ++ [name]

/-- Whether a text begins with two slashes and no third. -/
def beginsDouble : List Char → Bool
  | '/' :: '/' :: '/' :: _ => false
  | '/' :: '/' :: _ => true
  | _ => false

/-- The path that a text stands for when it is read in a directory. -/
def resolve (directory : Path) (text : List Char) : Path :=
  let names := text.splitOn '/'
  if text.head? = some '/' then ⟨beginsDouble text, names.foldl enter []⟩
  else ⟨directory.doubleRoot, names.foldl enter directory.names⟩

/-- The directory that a path is in; the root is in itself. -/
def parent (path : Path) : Path := { path with names := path.names.dropLast }

/-- The path of a name in a directory. -/
def child (path : Path) (name : String) : Path :=
  { path with names := path.names ++ [name.toList] }

/-- The text of a path. -/
def toText (path : Path) : List Char :=
  (if path.doubleRoot then ['/', '/'] else ['/']) ++ ['/'].intercalate path.names

end Path

end QueryGuard.Demo
