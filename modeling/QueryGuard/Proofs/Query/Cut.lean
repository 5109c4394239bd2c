import Mathlib.Data.List.Chain
import QueryGuard.Proofs.Query.Removal

/-!
# QueryGuard.Proofs.Query.Cut

The two removals of comments as cuts: a removal takes a text apart into characters that stay and
comments that go.

* `flatMap_source_lineCuts` and `flatMap_source_blockCuts` — the cuts make up the text;
* `flatMap_left_lineCuts` and `flatMap_left_blockCuts` — the characters that stay are what the
  removal leaves;
* `eq_append_of_left` and `infix_source_of_infix_left` — a place in what is left, and a piece of a
  line of it, carried back to the text.
-/

namespace QueryGuard.Query

/-- A part of a text as a removal of comments reads it. -/
inductive Cut
  /-- A character outside of the comments. -/
  | stays (c : Char)
  /-- The text of a comment. -/
  | goes (comment : List Char)
deriving DecidableEq, Repr

namespace Cut

/-- The text of a part. -/
def source : Cut → List Char
  | stays c => [c]
  | goes comment => comment

/-- What the removal leaves of a part. -/
def left : Cut → List Char
  | stays c => [c]
  | goes _ => []

/-- Whether a part stays. -/
def isStaying : Cut → Bool
  | stays _ => true
  | goes _ => false

end Cut

/-- The removal of line comments. -/
def lineCuts : List Char → List Cut
  | [] => []
  | '-' :: '-' :: cs =>
      .goes ('-' :: '-' :: cs.takeWhile (· != '\n')) :: lineCuts (fromNewline cs)
  | c :: cs => .stays c :: lineCuts cs
termination_by s => s.length
decreasing_by
  · have := length_fromNewline_le cs
    simp only [List.length_cons]
    omega
  · simp

/-- The removal of block comments. -/
def blockCuts : List Char → List Cut
  | [] => []
  | '/' :: '*' :: cs =>
      match _ : afterClose? cs with
      | some rest => .goes ('/' :: '*' :: (beforeClose cs ++ ['*', '/'])) :: blockCuts rest
      | none => ('/' :: '*' :: cs).map .stays
  | c :: cs => .stays c :: blockCuts cs
termination_by s => s.length
decreasing_by
  · have := length_afterClose?_lt ‹_›
    simp only [List.length_cons]
    omega
  · simp

/-! ## the text and what is left of it -/

theorem flatMap_source_map_stays (s : List Char) : (s.map Cut.stays).flatMap Cut.source = s := by
  rw [List.flatMap_map]
  exact List.flatMap_singleton' s

theorem flatMap_left_map_stays (s : List Char) : (s.map Cut.stays).flatMap Cut.left = s := by
  rw [List.flatMap_map]
  exact List.flatMap_singleton' s

/-- The cuts of the line pass are made of the text itself. -/
theorem flatMap_source_lineCuts (s : List Char) : (lineCuts s).flatMap Cut.source = s := by
  fun_induction lineCuts s with
  | case1 => rfl
  | case2 cs ih =>
      rw [List.flatMap_cons, ih, Cut.source, fromNewline, List.cons_append, List.cons_append,
        List.takeWhile_append_dropWhile]
  | case3 c cs _ ih => rw [List.flatMap_cons, ih, Cut.source, List.singleton_append]

/-- The cuts of the line pass leave the text without its line comments. -/
theorem flatMap_left_lineCuts (s : List Char) :
    (lineCuts s).flatMap Cut.left = dropLineComments s := by
  fun_induction lineCuts s with
  | case1 => rw [dropLineComments, List.flatMap_nil]
  | case2 cs ih => rw [List.flatMap_cons, ih, Cut.left, List.nil_append, dropLineComments]
  | case3 c cs noComment ih =>
      rw [List.flatMap_cons, ih, Cut.left, List.singleton_append, dropLineComments.eq_3]
      exact noComment

/-- The cuts of the block pass are made of the text itself. -/
theorem flatMap_source_blockCuts (s : List Char) : (blockCuts s).flatMap Cut.source = s := by
  fun_induction blockCuts s with
  | case1 => rfl
  | case2 cs rest closed ih =>
      have text := beforeClose_append closed
      simp only [List.flatMap_cons, ih, Cut.source, List.cons_append, List.append_assoc,
        List.nil_append, text]
  | case3 cs _ => exact flatMap_source_map_stays _
  | case4 c cs _ ih => rw [List.flatMap_cons, ih, Cut.source, List.singleton_append]

/-- The cuts of the block pass leave the text without its block comments. -/
theorem flatMap_left_blockCuts (s : List Char) :
    (blockCuts s).flatMap Cut.left = dropBlockComments s := by
  fun_induction blockCuts s with
  | case1 => rw [dropBlockComments, List.flatMap_nil]
  | case2 cs rest closed ih =>
      rw [List.flatMap_cons, ih, Cut.left, List.nil_append, ← beforeClose_append closed,
        dropBlockComments_block (noClose_beforeClose cs)]
  | case3 cs unclosed =>
      rw [flatMap_left_map_stays,
        dropBlockComments_unclosed (noClose_of_afterClose?_eq_none unclosed)]
  | case4 c cs noComment ih =>
      rw [List.flatMap_cons, ih, Cut.left, List.singleton_append, dropBlockComments.eq_3]
      exact noComment

/-- What cuts leave is part of what they are made of, in order. -/
theorem left_sublist_source (cuts : List Cut) :
    (cuts.flatMap Cut.left).Sublist (cuts.flatMap Cut.source) := by
  induction cuts with
  | nil => exact .slnil
  | cons cut cuts ih =>
      cases cut with
      | stays c => exact ih.cons_cons c
      | goes comment => exact ih.trans (List.sublist_append_right comment _)

theorem dropLineComments_sublist (s : List Char) : (dropLineComments s).Sublist s := by
  have parts := left_sublist_source (lineCuts s)
  rwa [flatMap_left_lineCuts, flatMap_source_lineCuts] at parts

theorem dropBlockComments_sublist (s : List Char) : (dropBlockComments s).Sublist s := by
  have parts := left_sublist_source (blockCuts s)
  rwa [flatMap_left_blockCuts, flatMap_source_blockCuts] at parts

/-! ## the comments -/

/-- A line comment begins with `--` and holds no line feed. -/
theorem eq_dashes_of_goes {s comment : List Char} (h : .goes comment ∈ lineCuts s) :
    ∃ body, comment = '-' :: '-' :: body ∧ '\n' ∉ body := by
  fun_induction lineCuts s with
  | case1 => cases h
  | case2 cs ih =>
      obtain here | later := List.mem_cons.mp h
      · refine ⟨_, Cut.goes.inj here, fun newline => ?_⟩
        simpa using List.all_eq_true.mp List.all_takeWhile _ newline
      · exact ih later
  | case3 c cs _ ih => exact ih (List.mem_of_ne_of_mem (by simp) h)

/-- A block comment stands between its marks and holds no other closing mark. -/
theorem eq_marks_of_goes {s comment : List Char} (h : .goes comment ∈ blockCuts s) :
    ∃ body, comment = '/' :: '*' :: (body ++ ['*', '/']) ∧ NoClose body := by
  fun_induction blockCuts s with
  | case1 => cases h
  | case2 cs rest _ ih =>
      obtain here | later := List.mem_cons.mp h
      · exact ⟨_, Cut.goes.inj here, noClose_beforeClose cs⟩
      · exact ih later
  | case3 cs _ => simp at h
  | case4 c cs _ ih => exact ih (List.mem_of_ne_of_mem (by simp) h)

/-! ## places carried back -/

/-- After a comment that goes, the next character is a line feed. -/
def Cut.BeforeNewline : Cut → Cut → Prop
  | goes _, next => next = stays '\n'
  | stays _, _ => True

/-- Behind a line comment there is nothing or the end of its line. -/
theorem isChain_lineCuts (s : List Char) : (lineCuts s).IsChain Cut.BeforeNewline := by
  fun_induction lineCuts s with
  | case1 => exact .nil
  | case2 cs ih =>
      cases rest : fromNewline cs with
      | nil =>
          rw [lineCuts]
          exact .singleton _
      | cons c tail =>
          have newline : c = '\n' := head?_fromNewline (by rw [rest]; rfl)
          subst newline
          rw [rest] at ih
          rw [lineCuts.eq_3 _ _ (by simp)] at ih ⊢
          exact .cons_cons rfl ih
  | case3 c cs _ ih => exact ih.cons fun _ _ => trivial

/-- A character of what is left is a character of the text that stays. -/
theorem eq_append_of_left {cuts : List Cut} {a b : List Char} {c : Char}
    (h : cuts.flatMap Cut.left = a ++ c :: b) :
    ∃ ps qs, cuts = ps ++ .stays c :: qs ∧ ps.flatMap Cut.left = a ∧ qs.flatMap Cut.left = b := by
  induction cuts generalizing a with
  | nil => simp at h
  | cons cut cuts ih =>
      cases cut with
      | goes comment =>
          obtain ⟨ps, qs, rfl, before, after⟩ := ih h
          exact ⟨.goes comment :: ps, qs, rfl, before, after⟩
      | stays d =>
          rw [List.flatMap_cons, Cut.left, List.singleton_append] at h
          cases a with
          | nil =>
              obtain ⟨rfl, rest⟩ := List.cons.inj h
              exact ⟨[], cuts, rfl, rfl, rest⟩
          | cons e a =>
              obtain ⟨rfl, rest⟩ := List.cons.inj h
              obtain ⟨ps, qs, rfl, before, after⟩ := ih rest
              exact ⟨.stays d :: ps, qs, rfl, by rw [List.flatMap_cons, before]; rfl, after⟩

/-- No comment stands before a character of what is left, unless that is a line feed. -/
theorem eq_cons_of_left {cuts : List Cut} {c : Char} {b : List Char}
    (chain : cuts.IsChain Cut.BeforeNewline) (h : cuts.flatMap Cut.left = c :: b)
    (sameLine : c ≠ '\n') :
    ∃ qs, cuts = .stays c :: qs ∧ qs.flatMap Cut.left = b := by
  cases cuts with
  | nil => cases h
  | cons cut cuts =>
      cases cut with
      | stays d =>
          obtain ⟨rfl, rest⟩ := List.cons.inj h
          exact ⟨cuts, rfl, rest⟩
      | goes comment =>
          cases cuts with
          | nil => cases h
          | cons next cuts =>
              obtain rfl : next = .stays '\n' := (List.isChain_cons_cons.mp chain).1
              exact absurd (List.cons.inj h).1.symm sameLine

/-- A piece of a line of what is left begins where the same piece of the text begins. -/
theorem prefix_source_of_prefix_left {cuts : List Cut} {k : List Char}
    (chain : cuts.IsChain Cut.BeforeNewline) (sameLine : '\n' ∉ k)
    (h : k <+: cuts.flatMap Cut.left) : k <+: cuts.flatMap Cut.source := by
  induction k generalizing cuts with
  | nil => exact List.nil_prefix
  | cons c k ih =>
      obtain ⟨rest, left⟩ := h
      obtain ⟨first, later⟩ := not_or.mp (mt List.mem_cons.mpr sameLine)
      obtain ⟨qs, rfl, leftTail⟩ := eq_cons_of_left chain left.symm (Ne.symm first)
      exact List.prefix_cons_inj c |>.mpr (ih chain.tail later ⟨rest, leftTail.symm⟩)

/-- A piece of a line of what is left is a piece of the text. -/
theorem infix_source_of_infix_left {cuts : List Cut} {k : List Char}
    (chain : cuts.IsChain Cut.BeforeNewline) (sameLine : '\n' ∉ k)
    (h : k <:+: cuts.flatMap Cut.left) : k <:+: cuts.flatMap Cut.source := by
  cases k with
  | nil => exact List.nil_infix
  | cons c k =>
      obtain ⟨a, b, left⟩ := h
      rw [List.append_assoc] at left
      obtain ⟨ps, qs, rfl, -, rest⟩ := eq_append_of_left left.symm
      have piece : c :: k <+: (Cut.stays c :: qs).flatMap Cut.left :=
        ⟨b, by rw [List.flatMap_cons, rest]; rfl⟩
      have found := prefix_source_of_prefix_left chain.right_of_append sameLine piece
      rw [List.flatMap_append]
      exact found.isInfix.trans (List.suffix_append _ _).isInfix

end QueryGuard.Query
