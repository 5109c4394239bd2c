import QueryGuard.Text.Ranges

/-!
# QueryGuard.Text.Blank

Blank characters, and the views of a text that turn on them: the text without the blanks at its
ends, its words, and its words joined by single spaces.
-/

namespace QueryGuard.Text

/-- The white space of the Unicode standard together with the four separators U+001C to U+001F.
Zero-width characters are not blank. -/
def blankRanges : List (Nat × Nat) :=
  [(0x09, 0x0d), (0x1c, 0x20), (0x85, 0x85), (0xa0, 0xa0), (0x1680, 0x1680), (0x2000, 0x200a),
    (0x2028, 0x2029), (0x202f, 0x202f), (0x205f, 0x205f), (0x3000, 0x3000)]

/-- Whether `c` is blank. -/
def isBlank (c : Char) : Bool := inRanges blankRanges c

/-- Whether a text holds nothing but blanks. -/
def allBlank (s : List Char) : Bool := s.all isBlank

/-- The text without the blanks it begins with. -/
def trimStart (s : List Char) : List Char := s.dropWhile isBlank

/-- The text without the blanks at its two ends. -/
def trim (s : List Char) : List Char := (trimStart (trimStart s).reverse).reverse

/-- The longest pieces of a text that hold no blank, in order. -/
def words (s : List Char) : List (List Char) :=
  (s.splitOnP isBlank).filter fun word => !word.isEmpty

/-- The words of a text, one space between each two of them. -/
def squeeze (s : List Char) : List Char := [' '].intercalate (words s)

/-! ## words -/

/-- The pieces between the blanks of a text hold no blank. -/
theorem forall_mem_piece {piece s : List Char} (h : piece ∈ s.splitOnP isBlank) :
    ∀ c ∈ piece, isBlank c = false := by
  induction s generalizing piece with
  | nil =>
      rw [List.splitOnP_nil, List.mem_singleton] at h
      simp [h]
  | cons d s ih =>
      rw [List.splitOnP_cons_eq_if_modifyHead] at h
      split at h
      · rcases List.mem_cons.mp h with rfl | later
        · simp
        · exact ih later
      · next inWord =>
        have nonempty : s.splitOnP isBlank ≠ [] := List.splitOnP_ne_nil isBlank s
        obtain ⟨first, rest, pieces⟩ := List.exists_cons_of_ne_nil nonempty
        rw [pieces, List.modifyHead_cons, List.mem_cons] at h
        rcases h with rfl | later
        · simpa [inWord] using ih (pieces ▸ List.mem_cons_self)
        · exact ih (pieces ▸ List.mem_cons_of_mem first later)

/-- A word is not empty and holds no blank. -/
theorem mem_words {word s : List Char} (h : word ∈ words s) :
    word ≠ [] ∧ ∀ c ∈ word, isBlank c = false := by
  obtain ⟨piece, full⟩ := List.mem_filter.mp h
  exact ⟨by simpa using full, forall_mem_piece piece⟩

theorem words_nil : words [] = [] := rfl

/-- The words of two texts with a blank between are the words of the one, then those of the
other. -/
theorem words_append_blank {b : Char} (h : isBlank b = true) (s t : List Char) :
    words (s ++ b :: t) = words s ++ words t := by
  rw [words, List.splitOnP_append_cons s t h, List.filter_append]
  rfl

/-! ## the characters of the class -/

theorem isBlank_space : isBlank ' ' = true := by decide

theorem isBlank_newline : isBlank '\n' = true := by decide

end QueryGuard.Text
