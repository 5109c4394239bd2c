import QueryGuard.Proofs.Query.Acceptance
import QueryGuard.Proofs.Query.Removal
import QueryGuard.Proofs.Query.Statement
import QueryGuard.Proofs.Query.Token

/-!
# QueryGuard.Proofs.Query.CommentFree

Queries in which no comment begins.  The cleaned copy of such a query is the query with its words
joined by single spaces, and every rule that looks at the copy says of it what it says of the query
itself (`judge_eq_judgeTrimmed`).

So an accepted query without comments is a `PlainRead`: what the rules say of the copy can be said
of the query, without reference to a copy.
-/

namespace QueryGuard.Query

open Text

/-- No comment begins in a text. -/
def CommentFree (query : List Char) : Prop := ¬ ['-', '-'] <:+: query ∧ ¬ ['/', '*'] <:+: query

instance (query : List Char) : Decidable (CommentFree query) :=
  decidable_of_iff (contains ['-', '-'] query = false ∧ contains ['/', '*'] query = false) (by
    rw [CommentFree, ← contains_iff, ← contains_iff, Bool.not_eq_true, Bool.not_eq_true])

/-- No comment stands in a text: no `--`, and no `/*` with a `*/` behind it. -/
def Uncommented (s : List Char) : Prop :=
  ¬ ['-', '-'] <:+: s ∧ ¬ InOrder ['/', '*'] ['*', '/'] s

/-- The first rule that a text breaks if the leading verb, the keywords and the statements are
looked for in the text without the blanks at its ends, and not in its cleaned copy. -/
def violationTrimmed? (query : List Char) : Option Rule :=
  if allBlank query then some .empty
  else if maxQueryLength < query.length then some .length
  else if (clean query).isEmpty then some .commentOnly
  else violationIn? .standard (trim query) query

/-- The verdict under these rules. -/
def judgeTrimmed (query : List Char) : Verdict :=
  match violationTrimmed? query with
  | some rule => .rejected rule
  | none => .accepted

/-- A query that is a single read as it stands. -/
structure PlainRead (query : List Char) : Prop where
  /-- Behind blanks it begins with a reading verb in any letter case, with no character of an
  identifier after it. -/
  verb : ∃ verb ∈ readingVerbs, ∃ k b, trimStart query = k ++ b ∧ FoldEq k verb.toList ∧
    joins b.head? = false
  /-- Where the letters of a denied keyword stand in any letter case, a character of an identifier
  is beside them. -/
  noKeyword : ∀ word ∈ deniedKeywords, ∀ a k b, query = a ++ k ++ b → FoldEq k word.toList →
    joins a.getLast? = true ∨ joins b.head? = true
  /-- Nothing but semicolons and blanks follows the first semicolon. -/
  oneStatement : ∀ a b, query = a ++ ';' :: b → ';' ∉ a → ∀ c ∈ b, c = ';' ∨ isBlank c = true

/-! ## the cleaned copy -/

/-- Without two hyphens in a row, no line comment is removed. -/
theorem dropLineComments_of_free {s : List Char} (h : ¬ ['-', '-'] <:+: s) :
    dropLineComments s = s := by
  induction s with
  | nil => rw [dropLineComments]
  | cons c s ih =>
      rw [pair_infix_cons_iff, not_or] at h
      rw [dropLineComments_cons h.1, ih h.2]

theorem Uncommented.tail {c : Char} {s : List Char} (h : Uncommented (c :: s)) : Uncommented s :=
  ⟨fun dashes => h.1 (dashes.trans (List.suffix_cons c s).isInfix),
    fun block => h.2 (block.append_left [c])⟩

/-- Without a block comment, none is removed. -/
theorem dropBlockComments_of_uncommented {s : List Char} (h : Uncommented s) :
    dropBlockComments s = s := by
  induction s with
  | nil => rw [dropBlockComments]
  | cons c s ih =>
      by_cases opens : c = '/' ∧ s.head? = some '*'
      · obtain ⟨rfl, front⟩ := opens
        obtain ⟨body, rfl⟩ := List.head?_eq_some_iff.mp front
        have noClose : NoClose body := fun closes => h.2 ⟨[], body, rfl, closes⟩
        exact dropBlockComments_unclosed noClose
      · rw [dropBlockComments_cons opens, ih h.tail]

/-- The copy of a query that holds no comment is made of its words. -/
theorem clean_of_uncommented {query : List Char} (h : Uncommented query) :
    clean query = squeeze query := by
  rw [clean, dropLineComments_of_free h.1, dropBlockComments_of_uncommented h]

theorem CommentFree.uncommented {query : List Char} (h : CommentFree query) : Uncommented query :=
  ⟨h.1, fun block => h.2 block.infix⟩

theorem clean_of_commentFree {query : List Char} (h : CommentFree query) :
    clean query = squeeze query := clean_of_uncommented h.uncommented

/-! ## the rules on the copy -/

theorem hasLeadingVerb_squeeze_trim (s : List Char) :
    hasLeadingVerb (squeeze s) = hasLeadingVerb (trim s) := by
  rw [← squeeze_trim, hasLeadingVerb_squeeze, trimStart_trim]

/-- The same rule is broken by the words and by the trimmed text. -/
theorem violationIn?_squeeze (query : List Char) :
    violationIn? .standard (squeeze query) query = violationIn? .standard (trim query) query := by
  refine violationIn?_congr (hasLeadingVerb_squeeze_trim query) ?_ (fun _ _ => rfl) ?_ rfl
  · intro word denied
    rw [← squeeze_trim, hasKeyword_squeeze (isName_of_denied word denied)]
  · rw [← squeeze_trim, one_lt_length_statements_squeeze]

/-- Without marks of comments, the violation is that of the trimmed query. -/
theorem violation?_eq_violationTrimmed? {query : List Char} (h : CommentFree query) :
    violation? .standard query = violationTrimmed? query := by
  have same := violationIn?_squeeze query
  rw [← clean_of_commentFree h] at same
  simp only [violation?, violationWith?, violationTrimmed?, same]

section Copy

variable {query : List Char} (h : CommentFree query)
include h

theorem hasLeadingVerb_clean : hasLeadingVerb (clean query) = hasLeadingVerb (trimStart query) := by
  rw [clean_of_commentFree h, hasLeadingVerb_squeeze]

theorem hasKeyword_clean {word : String} (name : IsName word) :
    hasKeyword word (clean query) = hasKeyword word query := by
  rw [clean_of_commentFree h, hasKeyword_squeeze name]

theorem one_lt_length_statements_clean :
    1 < (statements (clean query)).length ↔ 1 < (statements query).length := by
  rw [clean_of_commentFree h, one_lt_length_statements_squeeze]

end Copy

/-- An accepted query without comments has its verb, no keyword, and no further statement as it
stands. -/
theorem passes_of_commentFree {query : List Char} (h : CommentFree query)
    (accepted : judge query = .accepted) :
    hasLeadingVerb (trimStart query) = true ∧
      (∀ word ∈ deniedKeywords, hasKeyword word query = false) ∧
      ¬ 1 < (statements query).length := by
  have passes := judge_eq_accepted_iff.mp accepted
  refine ⟨?_, ?_, ?_⟩
  · rw [← hasLeadingVerb_clean h]
    exact passes.leadingVerb
  · intro word denied
    rw [← hasKeyword_clean h (isName_of_denied word denied)]
    exact passes.noKeyword word denied
  · rw [← one_lt_length_statements_clean h]
    exact Nat.not_lt.mpr passes.oneStatement

/-- Before the first semicolon of a text that begins with a verb stands text of a statement. -/
theorem exists_inStatement_of_hasLeadingVerb {a b : List Char}
    (verb : hasLeadingVerb (trimStart (a ++ ';' :: b)) = true) (first : ';' ∉ a) :
    ∃ c ∈ a, inStatement c = true := by
  by_cases blank : ∀ c ∈ a, isBlank c = true
  · have front : trimStart (a ++ ';' :: b) = ';' :: b := by
      rw [trimStart, List.dropWhile_append_of_pos blank]
      exact List.dropWhile_cons_of_neg (by decide)
    rw [front, not_hasLeadingVerb_cons (by decide)] at verb
    contradiction
  · simp only [Classical.not_forall, Bool.not_eq_true] at blank
    obtain ⟨c, hc, full⟩ := blank
    have other : c ≠ ';' := fun same => first (same ▸ hc)
    exact ⟨c, hc, by simp [inStatement, full, other]⟩

/-- An accepted query without marks of comments is a plain read. -/
theorem plainRead_of_accepted {query : List Char} (h : CommentFree query)
    (accepted : judge query = .accepted) : PlainRead query := by
  obtain ⟨verb, noKeyword, single⟩ := passes_of_commentFree h accepted
  refine ⟨hasLeadingVerb_iff.mp verb, ?_, ?_⟩
  · intro word denied a k b parts spelled
    have free := noKeyword word denied
    refine Classical.byContradiction fun apart => ?_
    rw [not_or, Bool.not_eq_true, Bool.not_eq_true] at apart
    rw [hasKeyword_iff.mpr ⟨a, k, b, parts, spelled, apart⟩] at free
    contradiction
  · intro a b parts first
    subst parts
    exact behind_semicolon_of_single single (exists_inStatement_of_hasLeadingVerb verb first)

/-- **Without comments the cleaned copy and the query are the same to the gate**: the verdict is the
one on the query itself, and an accepted query is a single read as it stands. -/
theorem judge_eq_judgeTrimmed {query : List Char} (h : CommentFree query) :
    judge query = judgeTrimmed query ∧ (judge query = .accepted → PlainRead query) := by
  refine ⟨?_, plainRead_of_accepted h⟩
  rw [judge, judgeUnder, violation?_eq_violationTrimmed? h]
  rfl

/-- A query with blanks of several kinds between its words and at its ends. -/
theorem judge_eq_judgeTrimmed_tabs :
    CommentFree "\u2003select\t1\u00a0;\n; ".toList ∧
      judge "\u2003select\t1\u00a0;\n; ".toList =
        judgeTrimmed "\u2003select\t1\u00a0;\n; ".toList ∧
      PlainRead "\u2003select\t1\u00a0;\n; ".toList := by
  have free : CommentFree "\u2003select\t1\u00a0;\n; ".toList := by decide
  obtain ⟨same, read⟩ := judge_eq_judgeTrimmed free
  exact ⟨free, same, read (by decide +kernel)⟩

end QueryGuard.Query
