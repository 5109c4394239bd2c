import Mathlib.Data.List.Forall2
import QueryGuard.Text.Blank
import QueryGuard.Text.Case
import QueryGuard.Text.WordChar

/-!
# QueryGuard.Proofs.Text.CaseForms

The characters that `fold` takes for one another, as a table of the case forms of each letter.

* `sameLetter_iff_fold_eq` — two characters have one fold exactly if they are equal or the table
  has them in one row;
* `apply_toLower` — what a letter and its small form in ASCII share, every character and its small
  form do;
* `isCaseForm_iff_foldEq` — the texts that the table makes of a word are those with its fold;
* `isBlank_fold` and `isWord_fold` — no class of characters tells the case forms of a letter apart;
* `isIdentifier_eq_isNameChar` — the characters of identifiers, one by one;
* `fold_eq_iff` — a character that is no letter is the fold of itself alone.
-/

namespace QueryGuard.Text

/-- The case forms of each ASCII letter. -/
def caseForms : List (List Char) :=
  [['A', 'a'], ['B', 'b'], ['C', 'c'], ['D', 'd'], ['E', 'e'], ['F', 'f'], ['G', 'g'], ['H', 'h'],
    ['I', 'i', '\u0130', '\u0131'], ['J', 'j'], ['K', 'k', '\u212a'], ['L', 'l'], ['M', 'm'],
    ['N', 'n'], ['O', 'o'], ['P', 'p'], ['Q', 'q'], ['R', 'r'], ['S', 's', '\u017f'], ['T', 't'],
    ['U', 'u'], ['V', 'v'], ['W', 'w'], ['X', 'x'], ['Y', 'y'], ['Z', 'z']]

/-- Two characters are equal or case forms of one letter. -/
def SameLetter (c d : Char) : Prop := c = d ∨ ∃ forms ∈ caseForms, c ∈ forms ∧ d ∈ forms

instance (c d : Char) : Decidable (SameLetter c d) := inferInstanceAs (Decidable (_ ∨ _))

/-- A character that is no case form of a letter. -/
def NoLetter (x : Char) : Prop := ∀ forms ∈ caseForms, x ∉ forms

instance (x : Char) : Decidable (NoLetter x) :=
  inferInstanceAs (Decidable (∀ forms ∈ caseForms, _))

/-- A fixed text without letters. -/
def IsMark (mark : String) : Prop := ∀ c ∈ mark.toList, NoLetter c

/- As for names, the instance goes over the characters of the text and not over all there are. -/
instance (mark : String) : Decidable (IsMark mark) := List.decidableBAll NoLetter mark.toList

/-- A function that does not tell the case forms of a letter apart. -/
def IgnoresCase {α : Type} (f : Char → α) : Prop :=
  ∀ forms ∈ caseForms, ∀ c ∈ forms, ∀ d ∈ forms, f c = f d

/- This instance, too, goes over the characters of the table alone. -/
instance {α : Type} [DecidableEq α] (f : Char → α) : Decidable (IgnoresCase f) :=
  have (c : Char) (forms : List Char) : Decidable (∀ d ∈ forms, f c = f d) :=
    List.decidableBAll _ forms
  have (forms : List Char) : Decidable (∀ c ∈ forms, ∀ d ∈ forms, f c = f d) :=
    List.decidableBAll _ forms
  List.decidableBAll _ caseForms

/-! ## the table and the fold -/

/-- A character that is not its own fold is in the table, in one row with its fold. -/
theorem fold_eq_or (c : Char) : fold c = c ∨ ∃ forms ∈ caseForms, c ∈ forms ∧ fold c ∈ forms := by
  induction c using fold_induction with
  | fixed c _ same => exact .inl same
  | forms n listed => revert n; decide +kernel

/-- What is the same for all case forms of a letter is the same for a character and its fold. -/
theorem IgnoresCase.apply_fold {α : Type} {f : Char → α} (h : IgnoresCase f) (c : Char) :
    f (fold c) = f c := by
  obtain fixed | ⟨forms, row, hc, hf⟩ := fold_eq_or c
  · rw [fixed]
  · exact h forms row _ hf _ hc

theorem ignoresCase_fold : IgnoresCase fold := by decide

/-- What is the same for the ASCII capitals and their small forms is the same for every character
and its small form. -/
theorem apply_toLower {α : Type} {f : Char → α}
    (ascii : ∀ n ∈ List.range 128, f (Char.ofNat n).toLower = f (Char.ofNat n)) (c : Char) :
    f c.toLower = f c := by
  induction c using fold_induction with
  | fixed c same _ => rw [same]
  | forms n listed =>
      obtain low | other := List.mem_append.mp listed
      · exact ascii n low
      · have same : ∀ n ∈ [0x17f, 0x212a, 0x130, 0x131],
            (Char.ofNat n).toLower = Char.ofNat n := by
          decide
        rw [same n other]

/-- No character is in two rows of the table. -/
theorem caseForms_apart {c : Char} {forms others : List Char} (row : forms ∈ caseForms)
    (row' : others ∈ caseForms) (hc : c ∈ forms) (hc' : c ∈ others) : forms = others := by
  have apart : ∀ forms ∈ caseForms, ∀ others ∈ caseForms,
      forms.any others.contains = true → forms = others := by
    decide +kernel
  exact apart forms row others row' (List.any_eq_true.mpr ⟨c, hc, List.contains_iff_mem.mpr hc'⟩)

/-- Two characters have one fold exactly if they are equal or case forms of one letter. -/
theorem sameLetter_iff_fold_eq {c d : Char} : SameLetter c d ↔ fold c = fold d := by
  constructor
  · intro h
    obtain rfl | ⟨forms, row, hc, hd⟩ := h
    · rfl
    · exact ignoresCase_fold forms row c hc d hd
  · intro h
    obtain hc | ⟨forms, row, hc, hfc⟩ := fold_eq_or c
    · obtain hd | ⟨others, row', hd, hfd⟩ := fold_eq_or d
      · exact .inl (by rw [← hc, h, hd])
      · exact .inr ⟨others, row', by rw [← hc, h]; exact hfd, hd⟩
    · obtain hd | ⟨others, row', hd, hfd⟩ := fold_eq_or d
      · exact .inr ⟨forms, row, hc, by rw [← hd, ← h]; exact hfc⟩
      · have one : forms = others := caseForms_apart row row' hfc (h ▸ hfd)
        exact .inr ⟨forms, row, hc, one ▸ hd⟩

/-- A text that has at every place the character of the word there or another case form of it. -/
def IsCaseForm (word : String) (k : List Char) : Prop := List.Forall₂ SameLetter k word.toList

/-- The case forms of a word are what is folded to it. -/
theorem isCaseForm_iff_foldEq {word : String} {k : List Char} :
    IsCaseForm word k ↔ FoldEq k word.toList := by
  have table : SameLetter = fun c d => fold c = fold d :=
    funext₂ fun c d => propext sameLetter_iff_fold_eq
  rw [IsCaseForm, FoldEq, table, ← List.forall₂_eq_eq_eq, List.forall₂_map_left_iff,
    List.forall₂_map_right_iff]

/-! ## classes of characters -/

/-- The ASCII letters and digits, the underscore, and the four other characters that are case forms
of an ASCII letter. -/
def isNameChar (c : Char) : Bool :=
  c.isAlphanum || c == '_' || ['\u017f', '\u212a', '\u0130', '\u0131'].contains c

/-- The identifier characters are those of names. -/
theorem isIdentifier_eq_isNameChar (c : Char) : isIdentifier c = isNameChar c := by
  induction c using fold_induction with
  | fixed c _ same =>
      have plain : ['\u017f', '\u212a', '\u0130', '\u0131'].contains c = false := by
        rw [Bool.eq_false_iff, ne_eq, List.contains_iff_mem]
        intro listed
        have moved :
            ['\u017f', '\u212a', '\u0130', '\u0131'].all (fun d => fold d != d) = true := by
          decide
        have moves := List.all_eq_true.mp moved c listed
        rw [same, bne_self_eq_false] at moves
        contradiction
      rw [isIdentifier, same, isNameChar, plain, Bool.or_false]
  | forms n listed => revert n; decide +kernel

theorem isBlank_fold (c : Char) : isBlank (fold c) = isBlank c := by
  have ignores : IgnoresCase isBlank := by decide +kernel
  exact ignores.apply_fold c

theorem isBlank_toLower (c : Char) : isBlank c.toLower = isBlank c :=
  apply_toLower (by decide +kernel) c

theorem isWord_fold (c : Char) : isWord (fold c) = isWord c := by
  have ignores : IgnoresCase isWord := by decide +kernel
  exact ignores.apply_fold c

theorem isIdentifier_fold (c : Char) : isIdentifier (fold c) = isIdentifier c :=
  isIdentifier_congr (fold_fold c)

theorem toNat_lt_of_isAlphanum {c : Char} (h : c.isAlphanum = true) : c.toNat < 128 := by
  have below (d : Char) (ascii : d.toNat < 128) (le : c.val ≤ d.val) : c.toNat < 128 :=
    Nat.lt_of_le_of_lt (UInt32.le_iff_toNat_le.mp le) ascii
  obtain letter | digit := Bool.or_eq_true_iff.mp h
  · obtain upper | lower := Bool.or_eq_true_iff.mp letter
    · exact below 'Z' (by decide) (of_decide_eq_true upper).2
    · exact below 'z' (by decide) (of_decide_eq_true (Bool.and_eq_true_iff.mp lower).2)
  · exact below '9' (by decide) (of_decide_eq_true (Bool.and_eq_true_iff.mp digit).2)

/-- A character of identifiers is a word character. -/
theorem isWord_of_isIdentifier {c : Char} (h : isIdentifier c = true) : isWord c = true := by
  rw [isIdentifier] at h
  rw [← isWord_fold, isWord]
  split
  · exact h
  · next far =>
    obtain letter | underscore := Bool.or_eq_true_iff.mp h
    · exact absurd (toNat_lt_of_isAlphanum letter) far
    · rw [beq_iff_eq.mp underscore] at far
      exact absurd (by decide) far

/-- A character that is no letter is the fold of itself alone. -/
theorem fold_eq_iff {x : Char} (h : NoLetter x) (c : Char) : fold c = x ↔ c = x := by
  have ignores : IgnoresCase (· == x) := by
    intro forms row c hc d hd
    have other : ∀ e ∈ forms, (e == x) = false := by
      intro e he
      rw [beq_eq_false_iff_ne]
      rintro rfl
      exact h forms row he
    exact (other c hc).trans (other d hd).symm
  have same : (fold c == x) = (c == x) := ignores.apply_fold c
  rw [← beq_iff_eq, same, beq_iff_eq]

theorem fold_of_noLetter {x : Char} (h : NoLetter x) : fold x = x := (fold_eq_iff h x).mpr rfl

/-- A text without letters has no other case form. -/
theorem foldEq_iff_eq {s t : List Char} (plain : ∀ c ∈ t, NoLetter c) : FoldEq s t ↔ s = t := by
  constructor
  · intro h
    induction t generalizing s with
    | nil => exact List.map_eq_nil_iff.mp h
    | cons x t ih =>
        obtain ⟨first, rest⟩ := List.forall_mem_cons.mp plain
        obtain ⟨c, cs, rfl, head, tail⟩ := List.map_eq_cons_iff.mp h
        rw [fold_of_noLetter first, fold_eq_iff first] at head
        rw [head, ih rest tail]
  · rintro rfl
    rfl

theorem isCaseForm_iff_eq {mark : String} {k : List Char} (h : IsMark mark) :
    IsCaseForm mark k ↔ k = mark.toList := by
  rw [isCaseForm_iff_foldEq, foldEq_iff_eq h]

end QueryGuard.Text
