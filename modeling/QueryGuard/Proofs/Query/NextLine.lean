import Mathlib.Data.List.DropRight
import QueryGuard.Proofs.Query.Acceptance
import QueryGuard.Proofs.Query.Cut
import QueryGuard.Proofs.Query.Standing

/-!
# QueryGuard.Proofs.Query.NextLine

Queries that go on in a further line.

A line feed ends every line comment and belongs to no mark of a comment.  So the removals treat two
texts with a line feed between them each by itself, as long as the first is `Settled`: no block
comment is open at its end.

* `clean_append_newline` — the copy of the two is made of the two copies;
* `RefusedForWords.spaced` — a first text that is refused for its verb or for a keyword is refused
  with whatever follows it.
-/

namespace QueryGuard.Query

open Text

/-- What stands behind the last block comment of a text that is closed. -/
def behindBlocks (s : List Char) : List Char :=
  ((blockCuts s).rtakeWhile Cut.isStaying).flatMap Cut.source

/-- No block comment is open at the end of a query: without its line comments, it holds no `/*`
behind its last closed block comment. -/
def Settled (query : List Char) : Prop := ¬ ['/', '*'] <:+: behindBlocks (dropLineComments query)

instance (query : List Char) : Decidable (Settled query) :=
  decidable_of_iff (contains ['/', '*'] (behindBlocks (dropLineComments query)) = false) (by
    rw [Settled, ← contains_iff, Bool.not_eq_true])

/-! ## line comments -/

/-- The end of a line is found before another line is. -/
theorem fromNewline_append_newline (s t : List Char) :
    fromNewline (s ++ '\n' :: t) = fromNewline s ++ '\n' :: t := by
  by_cases newline : '\n' ∈ s
  · exact fromNewline_append newline _
  · have sameLine : ∀ c ∈ s, (c != '\n') = true := by
      intro c hc
      rw [bne_iff_ne]
      exact fun same => newline (same ▸ hc)
    rw [fromNewline, fromNewline, List.dropWhile_append_of_pos sameLine,
      List.dropWhile_eq_nil_iff.mpr sameLine]
    rfl

/-- No line comment reaches over a line feed. -/
theorem dropLineComments_append_newline (s t : List Char) :
    dropLineComments (s ++ '\n' :: t) = dropLineComments s ++ '\n' :: dropLineComments t := by
  fun_induction dropLineComments s with
  | case1 => exact dropLineComments_cons (by simp)
  | case2 cs ih =>
      rw [List.cons_append, List.cons_append, dropLineComments.eq_2, fromNewline_append_newline, ih]
  | case3 c cs noComment ih =>
      have begins : ¬ (c = '-' ∧ (cs ++ '\n' :: t).head? = some '-') := by
        intro h
        cases cs with
        | nil => simp at h
        | cons d cs => exact noComment cs h.1 (by simpa using h.2)
      rw [List.cons_append, dropLineComments_cons begins, ih, List.cons_append]

/-! ## block comments -/

/-- Behind the last block comment of a rest stands the end of what stands behind that of the
whole. -/
theorem rtakeWhile_suffix_cons (cut : Cut) (cuts : List Cut) :
    cuts.rtakeWhile Cut.isStaying <:+ (cut :: cuts).rtakeWhile Cut.isStaying := by
  rw [List.rtakeWhile, List.rtakeWhile, List.reverse_suffix, List.reverse_cons,
    List.takeWhile_append]
  split
  · exact (List.takeWhile_prefix _).trans (List.prefix_append _ _)
  · exact List.prefix_rfl

/-- What is not in the last cuts that stay is not in those of the rest. -/
theorem not_infix_behind_tail {k : List Char} {cut : Cut} {cuts : List Cut}
    (h : ¬ k <:+: ((cut :: cuts).rtakeWhile Cut.isStaying).flatMap Cut.source) :
    ¬ k <:+: (cuts.rtakeWhile Cut.isStaying).flatMap Cut.source := by
  obtain ⟨front, parts⟩ := rtakeWhile_suffix_cons cut cuts
  rw [← parts, List.flatMap_append] at h
  exact fun found => h (found.trans (List.suffix_append _ _).isInfix)

/-- No block comment reaches over the line feed if none is open there. -/
theorem dropBlockComments_append_newline {s : List Char}
    (settled : ¬ ['/', '*'] <:+: behindBlocks s) (t : List Char) :
    dropBlockComments (s ++ '\n' :: t) = dropBlockComments s ++ '\n' :: dropBlockComments t := by
  rw [behindBlocks] at settled
  fun_induction blockCuts s with
  | case1 =>
      rw [List.nil_append, dropBlockComments_cons (by simp), dropBlockComments.eq_1,
        List.nil_append]
  | case2 cs rest closed ih =>
      have noClose := noClose_beforeClose cs
      have parts := beforeClose_append closed
      have alone : dropBlockComments ('/' :: '*' :: cs) = dropBlockComments rest := by
        rw [← parts, dropBlockComments_block noClose]
      have followed : cs ++ '\n' :: t =
          beforeClose cs ++ '*' :: '/' :: (rest ++ '\n' :: t) := by
        have joined := congrArg (· ++ '\n' :: t) parts.symm
        simpa only [List.append_assoc, List.cons_append] using joined
      rw [List.cons_append, List.cons_append, followed, dropBlockComments_block noClose,
        ih (not_infix_behind_tail settled), alone]
  | case3 cs unclosed =>
      have whole : (('/' :: '*' :: cs).map Cut.stays).rtakeWhile Cut.isStaying =
          ('/' :: '*' :: cs).map Cut.stays :=
        List.rtakeWhile_eq_self_iff.mpr (by simp [Cut.isStaying])
      rw [whole, flatMap_source_map_stays] at settled
      exact absurd (List.prefix_append ['/', '*'] cs).isInfix settled
  | case4 c cs noComment ih =>
      have alone : ¬ (c = '/' ∧ cs.head? = some '*') := by
        intro h
        obtain ⟨tail, rfl⟩ := List.head?_eq_some_iff.mp h.2
        exact noComment tail h.1 rfl
      have followed : ¬ (c = '/' ∧ (cs ++ '\n' :: t).head? = some '*') := by
        cases cs with
        | nil => simp
        | cons d cs => exact alone
      rw [List.cons_append, dropBlockComments_cons followed, dropBlockComments_cons alone,
        ih (not_infix_behind_tail settled), List.cons_append]

/-- A settled line is stripped on its own. -/
theorem stripped_append_newline {a : List Char} (settled : Settled a) (b : List Char) :
    stripped (a ++ '\n' :: b) = stripped a ++ '\n' :: stripped b := by
  rw [stripped, dropLineComments_append_newline, dropBlockComments_append_newline settled, stripped,
    stripped]

/-! ## the copy -/

/-- The copy of a text that goes on in a further line is made of the copies of the two. -/
theorem clean_append_newline {a : List Char} (settled : Settled a) (b : List Char) :
    clean (a ++ '\n' :: b) = spaced (clean a) (clean b) := by
  rw [clean_eq_squeeze_stripped, stripped_append_newline settled,
    squeeze_append_blank isBlank_newline, ← clean_eq_squeeze_stripped, ← clean_eq_squeeze_stripped]

/-! ## the verdict -/

/-- A copy that is refused for the word at its front or for a keyword in it. -/
def RefusedForWords (copy : List Char) : Prop :=
  (copy ≠ [] ∧ ¬ StartsWithVerb copy) ∨ ∃ word ∈ deniedKeywords, StandsIn word copy

instance (copy : List Char) : Decidable (RefusedForWords copy) :=
  decidable_of_iff ((copy ≠ [] ∧ ¬ hasLeadingVerb copy = true) ∨
      ∃ word ∈ deniedKeywords, hasKeyword word copy = true) (by
    simp only [RefusedForWords, hasLeadingVerb_iff_startsWithVerb, hasKeyword_iff_standsIn])

theorem RefusedForWords.ne_nil {copy : List Char} (refused : RefusedForWords copy) : copy ≠ [] := by
  obtain ⟨full, -⟩ | ⟨word, denied, a, k, b, parts, spelled, -⟩ := refused
  · exact full
  · intro empty
    rw [empty, List.nil_eq, List.append_eq_nil_iff, List.append_eq_nil_iff] at parts
    exact ne_nil_of_foldEq (isName_of_denied word denied)
      (isCaseForm_iff_foldEq.mp spelled) parts.1.2

/-- What follows a space saves no copy. -/
theorem RefusedForWords.append_space {copy : List Char} (refused : RefusedForWords copy)
    (rest : List Char) : RefusedForWords (copy ++ ' ' :: rest) := by
  obtain ⟨full, noVerb⟩ | ⟨word, denied, stands⟩ := refused
  · refine .inl ⟨by simp, ?_⟩
    have ends : ' ' :: rest = [] ∨ ∃ b t, ' ' :: rest = b :: t ∧ isBlank b = true :=
      .inr ⟨' ', rest, rfl, isBlank_space⟩
    rwa [← hasLeadingVerb_iff_startsWithVerb, hasLeadingVerb_append ends,
      hasLeadingVerb_iff_startsWithVerb]
  · refine .inr ⟨word, denied, ?_⟩
    rw [← hasKeyword_iff_standsIn] at stands ⊢
    exact (hasKeyword_append_cons (isName_of_denied word denied)
      (isIdentifier_of_isBlank isBlank_space) copy rest).mpr (.inl stands)

/-- A copy that is refused for its words is refused whatever words follow. -/
theorem RefusedForWords.spaced {copy : List Char} (refused : RefusedForWords copy)
    (rest : List Char) : RefusedForWords (spaced copy rest) := by
  obtain ⟨empty, -⟩ | ⟨-, same⟩ | same := spaced_cases copy rest
  · exact absurd empty refused.ne_nil
  · rwa [same]
  · rw [same]
    exact refused.append_space rest

/-- A query with a copy that is refused for its words is rejected. -/
theorem rejected_of_refusedForWords {query : List Char} (refused : RefusedForWords (clean query)) :
    ∃ rule, judge query = .rejected rule := by
  cases verdict : judge query with
  | rejected rule => exact ⟨rule, rfl⟩
  | accepted =>
      have passes := judge_eq_accepted_iff.mp verdict
      obtain ⟨-, noVerb⟩ | ⟨word, denied, stands⟩ := refused
      · exact absurd (hasLeadingVerb_iff_startsWithVerb.mp passes.leadingVerb) noVerb
      · have free := passes.noKeyword word denied
        rw [hasKeyword_iff_standsIn.mpr stands] at free
        contradiction

/-- **Cleaning goes line by line**: the copy of a text in which no block comment is left open, with
further lines after it, is the copy of the text and the copy of the further lines with a space
between, where an empty copy is left out.  So later lines do not save a text that is refused for its
verb or for a keyword. -/
theorem clean_line_by_line {a : List Char} (settled : Settled a) (b : List Char) :
    clean (a ++ '\n' :: b) = spaced (clean a) (clean b) ∧
      (RefusedForWords (clean a) → ∃ rule, judge (a ++ '\n' :: b) = .rejected rule) := by
  have copy := clean_append_newline settled b
  refine ⟨copy, fun refused => rejected_of_refusedForWords ?_⟩
  rw [copy]
  exact refused.spaced (clean b)

/-- A text with a closed block comment and a line comment that opens another one, and a read after
it. -/
theorem clean_line_by_line_drop :
    Settled "/* one */ DROP TABLE t -- /*".toList ∧
      clean ("/* one */ DROP TABLE t -- /*".toList ++ '\n' :: "SELECT */ 1".toList) =
        spaced "DROP TABLE t".toList "SELECT */ 1".toList ∧
      RefusedForWords "DROP TABLE t".toList ∧
      ∃ rule, judge ("/* one */ DROP TABLE t -- /*".toList ++ '\n' :: "SELECT */ 1".toList) =
        .rejected rule := by
  have settled : Settled "/* one */ DROP TABLE t -- /*".toList := by decide +kernel
  have first : clean "/* one */ DROP TABLE t -- /*".toList = "DROP TABLE t".toList := by
    decide +kernel
  have second : clean "SELECT */ 1".toList = "SELECT */ 1".toList := by decide +kernel
  have refused : RefusedForWords "DROP TABLE t".toList := by decide +kernel
  obtain ⟨copy, rejected⟩ := clean_line_by_line settled "SELECT */ 1".toList
  rw [first] at copy rejected
  rw [second] at copy
  exact ⟨settled, copy, refused, rejected refused⟩

end QueryGuard.Query
