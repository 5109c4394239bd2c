import Mathlib.Data.List.Forall2
import QueryGuard.Proofs.Pattern.CaseBlind
import QueryGuard.Proofs.Query.Acceptance
import QueryGuard.Proofs.Query.Removal
import QueryGuard.Proofs.Query.Statement

/-!
# QueryGuard.Proofs.Query.CaseBlind

The verdict on a query does not depend on letter case (`judge_eq_of_sameLetters`).

Folding a query changes no character that the gate tells from letters, so it may be done before or
after any of the steps by which the copy is made:

```
query      --clean-->  clean query      --rules-->  verdict
  | fold                 | fold                        ||
folded     --clean-->  folded copy      --rules-->  verdict
```
-/

namespace QueryGuard.Query

open Text

/-! ## comments -/

theorem noLetter_dash : NoLetter '-' := by decide

theorem noLetter_star : NoLetter '*' := by decide

theorem noLetter_slash : NoLetter '/' := by decide

/-- Folding keeps a first character that is no letter. -/
theorem head?_map_fold_eq_iff {x : Char} (h : NoLetter x) (s : List Char) :
    (s.map fold).head? = some x ↔ s.head? = some x := by
  cases s with
  | nil => simp
  | cons c s => simp [fold_eq_iff h]

/-- Two marks that stand beside each other in the folded text do so in the text. -/
theorem eq_of_fold_pair {x y c : Char} {s : List Char} (hx : NoLetter x) (hy : NoLetter y)
    (h : fold c = x ∧ (s.map fold).head? = some y) : c = x ∧ ∃ rest, s = y :: rest := by
  obtain ⟨first, second⟩ := h
  rw [head?_map_fold_eq_iff hy] at second
  exact ⟨(fold_eq_iff hx c).mp first, List.head?_eq_some_iff.mp second⟩

/-- Folding keeps the ends of lines. -/
theorem fromNewline_map_fold (s : List Char) :
    fromNewline (s.map fold) = (fromNewline s).map fold := by
  have newline : (fun c => fold c != '\n') = (fun c => c != '\n') :=
    funext (CharClass.has_fold .notNewline)
  rw [fromNewline, List.dropWhile_map, Function.comp_def, newline, fromNewline]

/-- Line comments are removed in the same places after folding. -/
theorem dropLineComments_map_fold (s : List Char) :
    dropLineComments (s.map fold) = (dropLineComments s).map fold := by
  fun_induction dropLineComments s with
  | case1 => rw [List.map_nil, dropLineComments]
  | case2 cs ih =>
      have kept : fold '-' = '-' := fold_of_noLetter noLetter_dash
      rw [List.map_cons, List.map_cons, kept, dropLineComments, fromNewline_map_fold, ih]
  | case3 c cs other ih =>
      rw [List.map_cons, dropLineComments_cons, ih, List.map_cons]
      intro opening
      obtain ⟨hc, rest, hs⟩ := eq_of_fold_pair noLetter_dash noLetter_dash opening
      exact other rest hc hs

/-- Block comments close in the same places after folding. -/
theorem afterClose?_map_fold (s : List Char) :
    afterClose? (s.map fold) = (afterClose? s).map (List.map fold) := by
  fun_induction afterClose? s with
  | case1 cs =>
      rw [List.map_cons, List.map_cons, fold_of_noLetter noLetter_star,
        fold_of_noLetter noLetter_slash, afterClose?, Option.map_some]
  | case2 c cs other ih =>
      rw [List.map_cons, afterClose?.eq_2, ih]
      intro rest hc hcs
      have closing : fold c = '*' ∧ (cs.map fold).head? = some '/' := ⟨hc, by simp [hcs]⟩
      obtain ⟨hc, rest, hs⟩ := eq_of_fold_pair noLetter_star noLetter_slash closing
      exact other rest hc hs
  | case3 => rfl

/-- Block comments are removed in the same places after folding. -/
theorem dropBlockComments_map_fold (s : List Char) :
    dropBlockComments (s.map fold) = (dropBlockComments s).map fold := by
  have keptStar : fold '*' = '*' := fold_of_noLetter noLetter_star
  have keptSlash : fold '/' = '/' := fold_of_noLetter noLetter_slash
  fun_induction dropBlockComments s with
  | case1 => rw [List.map_nil, dropBlockComments]
  | case2 cs rest closed ih =>
      have closedToo : afterClose? (cs.map fold) = some (rest.map fold) := by
        rw [afterClose?_map_fold, closed, Option.map_some]
      rw [List.map_cons, List.map_cons, keptSlash, keptStar, dropBlockComments]
      split
      · next rest' closed' =>
        rw [closedToo] at closed'
        cases closed'
        exact ih
      · next unclosed =>
        rw [closedToo] at unclosed
        cases unclosed
  | case3 cs unclosed =>
      have body := noClose_of_afterClose?_eq_none (s := cs.map fold)
        (by rw [afterClose?_map_fold, unclosed, Option.map_none])
      rw [List.map_cons, List.map_cons, keptSlash, keptStar, dropBlockComments_unclosed body]
  | case4 c cs other ih =>
      rw [List.map_cons, dropBlockComments_cons, ih, List.map_cons]
      intro opening
      obtain ⟨hc, rest, hs⟩ := eq_of_fold_pair noLetter_slash noLetter_star opening
      exact other rest hc hs

/-! ## words and statements -/

theorem noLetter_semicolon : NoLetter ';' := by decide

theorem allBlank_map_fold (s : List Char) : allBlank (s.map fold) = allBlank s := by
  simp only [allBlank, List.all_map, Function.comp_def, isBlank_fold]

/-- The words of a folded text are the folded words. -/
theorem words_map_fold (s : List Char) : words (s.map fold) = (words s).map (List.map fold) := by
  have noBlank : ∀ x : List Char, (∀ c ∈ x, isBlank c = false) →
      ∀ c ∈ x.map fold, isBlank c = false := by
    intro x h
    simp only [List.forall_mem_map, isBlank_fold]
    exact h
  induction s using piece_induction isBlank with
  | piece x full =>
      rw [words_of_noBlank (noBlank x full), words_of_noBlank full]
      by_cases h : x = []
      · simp [h]
      · simp [h]
  | step x b t full blank ih =>
      rw [List.map_append, List.map_cons,
        words_append_of_noBlank (noBlank x full) (by rw [isBlank_fold, blank]), ih,
        words_append_of_noBlank full blank]
      by_cases h : x = []
      · simp [h]
      · simp [h]

/-- The words are joined in the same places after folding. -/
theorem squeeze_map_fold (s : List Char) : squeeze (s.map fold) = (squeeze s).map fold := by
  have space : fold ' ' = ' ' := by decide
  have joined : ∀ ws : List (List Char),
      [' '].intercalate (ws.map (List.map fold)) = ([' '].intercalate ws).map fold := by
    intro ws
    induction ws with
    | nil => rfl
    | cons w ws ih =>
        cases ws with
        | nil => simp [List.intercalate_singleton]
        | cons v vs =>
            simp only [List.map_cons] at ih
            simp only [List.map_cons, List.intercalate_cons_cons, ih, List.map_append, space,
              List.map_nil]
  rw [squeeze, words_map_fold, joined, squeeze]

/-- The copy of the folded query is the folded copy. -/
theorem clean_map_fold (query : List Char) : clean (query.map fold) = (clean query).map fold := by
  rw [clean, dropLineComments_map_fold, dropBlockComments_map_fold, squeeze_map_fold, clean]

theorem length_statements_map_fold_of_noSemicolon {x : List Char}
    (h : ∀ c ∈ x, (c == ';') = false) :
    (statements (x.map fold)).length = (statements x).length := by
  have noneFolded : ∀ c ∈ x.map fold, (c == ';') = false := by
    simp only [List.forall_mem_map, beq_eq_false_iff_ne, ne_eq, fold_eq_iff noLetter_semicolon]
    simpa using h
  rw [statements_of_noSemicolon noneFolded, statements_of_noSemicolon h, allBlank_map_fold]
  split <;> rfl

/-- Folding changes no semicolon, so the text falls apart at the same places. -/
theorem length_statements_map_fold (s : List Char) :
    (statements (s.map fold)).length = (statements s).length := by
  induction s using piece_induction (· == ';') with
  | piece x noSemicolon => exact length_statements_map_fold_of_noSemicolon noSemicolon
  | step x b t noSemicolon parting ih =>
      have parts := beq_iff_eq.mp parting
      subst parts
      rw [List.map_append, List.map_cons, fold_of_noLetter noLetter_semicolon,
        statements_append_semicolon, statements_append_semicolon, List.length_append,
        List.length_append, length_statements_map_fold_of_noSemicolon noSemicolon, ih]

/-! ## the verdict -/

/-- The same rule is broken after folding. -/
theorem violationIn?_map_fold (policy : Policy) (copy query : List Char) :
    violationIn? policy (copy.map fold) (query.map fold) = violationIn? policy copy query := by
  refine violationIn?_congr (Pattern.startsIn_fold _ copy) ?_ ?_ ?_ (Pattern.occursIn_fold _ query)
  · exact fun word _ => Pattern.occursIn_fold (keyword word) copy
  · exact fun shape _ => Pattern.occursIn_fold shape.pattern query
  · rw [length_statements_map_fold]

/-- A query and its fold have one verdict. -/
theorem judgeUnder_map_fold (policy : Policy) (query : List Char) :
    judgeUnder policy (query.map fold) = judgeUnder policy query := by
  simp only [judgeUnder, violation?, violationWith?, allBlank_map_fold, List.length_map,
    clean_map_fold, List.isEmpty_map, violationIn?_map_fold]

/-- **The verdict does not depend on letter case**: two queries that differ only in the case forms
of their letters are judged alike. -/
theorem judge_eq_of_sameLetters {query other : List Char}
    (h : List.Forall₂ SameLetter query other) : judge query = judge other := by
  have folded : query.map fold = other.map fold := by
    rw [← List.forall₂_eq_eq_eq, List.forall₂_map_left_iff, List.forall₂_map_right_iff]
    exact h.imp fun _ _ => sameLetter_iff_fold_eq.mp
  rw [judge, ← judgeUnder_map_fold, folded, judgeUnder_map_fold, judge]

/-- A query with the long s, the dotless i and the Kelvin sign is judged as its plain form is. -/
theorem judge_eq_plain_letters :
    List.Forall₂ SameLetter "\u017felect a \u0131nto \u212a".toList "SELECT A INTO k".toList ∧
      judge "\u017felect a \u0131nto \u212a".toList = judge "SELECT A INTO k".toList := by
  have same : List.Forall₂ SameLetter "\u017felect a \u0131nto \u212a".toList
      "SELECT A INTO k".toList := by decide
  exact ⟨same, judge_eq_of_sameLetters same⟩

end QueryGuard.Query
