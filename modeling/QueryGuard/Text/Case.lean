/-!
# QueryGuard.Text.Case

Letter case, as far as it shows in a match against ASCII letters.

* `fold` sends the characters that a match without regard to case takes for one another to one
  character: each ASCII letter to its small form, and the four other characters that share a
  case form with an ASCII letter to that letter.
* `isIdentifier` is the class of letters, digits and the underscore under `fold`.
* `lowered` is the small form of a text as far as ASCII letters are concerned.
-/

namespace QueryGuard.Text

/-- The character that stands for `c` when case is ignored.  The long s U+017F goes with `s`, the
Kelvin sign U+212A with `k`, the dotted capital I U+0130 and the dotless small i U+0131 with `i`. -/
def fold (c : Char) : Char :=
  if c = '\u017f' then 's'
  else if c = '\u212a' then 'k'
  else if c = '\u0130' ∨ c = '\u0131' then 'i'
  else c.toLower

/-- Two texts that differ in letter case only. -/
def FoldEq (s t : List Char) : Prop := s.map fold = t.map fold

instance (s t : List Char) : Decidable (FoldEq s t) := inferInstanceAs (Decidable (_ = _))

/-- An ASCII letter or digit or the underscore, in any case form. -/
def isIdentifier (c : Char) : Bool := (fold c).isAlphanum || fold c == '_'

/-- What holds of every character without a case form, of the ASCII characters and of the four other
characters with an ASCII case form holds of every character. -/
theorem fold_induction {P : Char → Prop} (fixed : ∀ c, c.toLower = c → fold c = c → P c)
    (forms : ∀ n ∈ List.range 128 ++ [0x17f, 0x212a, 0x130, 0x131], P (Char.ofNat n)) (c : Char) :
    P c := by
  by_cases listed : c.toNat ∈ List.range 128 ++ [0x17f, 0x212a, 0x130, 0x131]
  · simpa using forms c.toNat listed
  · have other : ∀ d : Char, d.toNat ∈ List.range 128 ++ [0x17f, 0x212a, 0x130, 0x131] → c ≠ d := by
      rintro d hd rfl
      exact listed hd
    have same : c.toLower = c := by
      refine dif_neg fun capital => listed (List.mem_append_left _ (List.mem_range.mpr ?_))
      exact Nat.lt_of_le_of_lt (UInt32.le_iff_toNat_le.mp capital.2) (by decide)
    refine fixed c same ?_
    rw [fold, if_neg (other '\u017f' (by decide)), if_neg (other '\u212a' (by decide)),
      if_neg (not_or.mpr ⟨other '\u0130' (by decide), other '\u0131' (by decide)⟩), same]

/-- A folded character is its own fold. -/
theorem fold_fold (c : Char) : fold (fold c) = fold c := by
  induction c using fold_induction with
  | fixed c _ same => rw [same, same]
  | forms n listed => revert n; decide +kernel

/-- Characters with one fold are both in the class or both not. -/
theorem isIdentifier_congr {c d : Char} (h : fold c = fold d) :
    isIdentifier c = isIdentifier d := by
  rw [isIdentifier, isIdentifier, h]

/- The small form of a text is only ever searched for texts of ASCII letters and spaces.  Apart
from the capitals A to Z, two characters have an ASCII letter in their small form: the dotted
capital I, whose small form is `i` with U+0307 after it, and the Kelvin sign.  Other characters
keep outside ASCII whatever their small form is, so they may stay as they are. -/

/-- The small form of one character, where it shows in ASCII. -/
def loweredChar (c : Char) : List Char :=
  if c = '\u0130' then ['i', '\u0307'] else if c = '\u212a' then ['k'] else [c.toLower]

/-- The small form of a text, where it shows in ASCII. -/
def lowered (s : List Char) : List Char := s.flatMap loweredChar

end QueryGuard.Text
