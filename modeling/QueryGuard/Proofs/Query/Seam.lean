import QueryGuard.Proofs.Query.CommentFree
import QueryGuard.Proofs.Query.Cut

/-!
# QueryGuard.Proofs.Query.Seam

What comes to stand beside each other where a block comment is removed.

The removal leaves nothing in place of a comment, so it joins the characters on its two sides.  Such
a *seam* may make a mark of a comment that the text did not hold: two hyphens with a block comment
between them are joined to `--`, and

```
//* one */* two */      leaves      /* two */
```

The copy of a query is free of comments exactly if no seam does so, and cleaning the copy once more
changes it exactly if one does (`clean_clean_iff`).  The removal of line comments makes no such
mark, since it stops at a line feed (`not_infix_dropLineComments`).
-/

namespace QueryGuard.Query

open Text

/-- Two characters that the removal of block comments joins: there are comments between them and
nothing else.  It leaves `rest` behind them. -/
def Seam (s : List Char) (c d : Char) (rest : List Char) : Prop :=
  ∃ before comments after, blockCuts s = before ++ .stays c :: (comments ++ .stays d :: after) ∧
    comments ≠ [] ∧ (∀ cut ∈ comments, cut.isStaying = false) ∧ after.flatMap Cut.left = rest

/-- The cleaning of a query makes a comment of what it joins. -/
inductive JoinsComment (query : List Char) : Prop
  /-- Two hyphens are joined. -/
  | line {rest : List Char} (seam : Seam (dropLineComments query) '-' '-' rest)
  /-- A slash and an asterisk are joined, and a closing mark is left behind them. -/
  | block {rest : List Char} (seam : Seam (dropLineComments query) '/' '*' rest)
      (closed : ['*', '/'] <:+: rest)

/-! ## what is left -/

/-- No `--` is left by the removal of line comments. -/
theorem not_infix_dropLineComments (s : List Char) : ¬ ['-', '-'] <:+: dropLineComments s := by
  fun_induction dropLineComments s with
  | case1 => simp
  | case2 cs ih => exact ih
  | case3 c cs noComment ih =>
      rw [pair_infix_cons_iff, not_or]
      refine ⟨?_, ih⟩
      intro dashes
      obtain newline | front := head?_dropLineComments dashes.2
      · simp at newline
      · obtain ⟨tail, rfl⟩ := List.head?_eq_some_iff.mp front
        exact noComment tail dashes.1 rfl

/-- Where `/*` is left without a seam, no `*/` is left behind it. -/
theorem noClose_behind_open {s : List Char} {before after : List Cut}
    (h : blockCuts s = before ++ .stays '/' :: .stays '*' :: after) :
    NoClose (after.flatMap Cut.left) := by
  fun_induction blockCuts s generalizing before with
  | case1 => simp at h
  | case2 cs rest closed ih =>
      cases before with
      | nil => simp at h
      | cons cut before => exact ih (List.cons.inj h).2
  | case3 cs unclosed =>
      have text := congrArg (List.flatMap Cut.left) h
      simp only [flatMap_left_map_stays, List.flatMap_append, List.flatMap_cons, Cut.left,
        List.singleton_append] at text
      have longer := congrArg List.length text
      simp only [List.length_cons, List.length_append] at longer
      have inWhole : after.flatMap Cut.left <:+ '/' :: '*' :: cs := by
        rw [text]
        exact ((List.suffix_cons _ _).trans (List.suffix_cons _ _)).trans (List.suffix_append _ _)
      have inBody : after.flatMap Cut.left <:+ cs :=
        List.suffix_of_suffix_length_le inWhole
          ((List.suffix_cons _ _).trans (List.suffix_cons _ _)) (by omega)
      exact fun closes =>
        noClose_of_afterClose?_eq_none unclosed (closes.trans inBody.isInfix)
  | case4 c cs noComment ih =>
      cases before with
      | cons cut before => exact ih (List.cons.inj h).2
      | nil =>
          obtain ⟨first, later⟩ := List.cons.inj h
          have text := flatMap_source_blockCuts cs
          rw [later, List.flatMap_cons, Cut.source, List.singleton_append] at text
          exact absurd text.symm (noComment _ (Cut.stays.inj first))

/-! ## seams -/

/-- Two characters beside each other in what is left have comments between them, or nothing. -/
theorem exists_comments_of_left {cuts : List Cut} {a b : List Char} {c d : Char}
    (h : cuts.flatMap Cut.left = a ++ c :: d :: b) :
    ∃ before comments after, cuts = before ++ .stays c :: (comments ++ .stays d :: after) ∧
      (∀ cut ∈ comments, cut.isStaying = false) ∧ after.flatMap Cut.left = b := by
  obtain ⟨before, rest, rfl, -, behind⟩ := eq_append_of_left h
  rw [← List.nil_append (d :: b)] at behind
  obtain ⟨comments, after, rfl, nothing, last⟩ := eq_append_of_left behind
  refine ⟨before, comments, after, rfl, ?_, last⟩
  intro cut mem
  cases cut with
  | goes comment => rfl
  | stays e => simpa [Cut.left] using List.flatMap_eq_nil_iff.mp nothing _ mem

/-- The two characters of a seam meet in what is left. -/
theorem Seam.left {s rest : List Char} {c d : Char} (seam : Seam s c d rest) :
    ∃ a, dropBlockComments s = a ++ c :: d :: rest := by
  obtain ⟨before, comments, after, cuts, -, goes, rfl⟩ := seam
  have nothing : comments.flatMap Cut.left = [] := by
    rw [List.flatMap_eq_nil_iff]
    intro cut mem
    have gone := goes cut mem
    cases cut with
    | goes comment => rfl
    | stays e => simp [Cut.isStaying] at gone
  refine ⟨before.flatMap Cut.left, ?_⟩
  simp [← flatMap_left_blockCuts, cuts, nothing, Cut.left]

/-- Two characters beside each other in what is left are joined there, or they stand beside each
other in the text. -/
theorem seam_or_beside {s a b : List Char} {c d : Char}
    (h : dropBlockComments s = a ++ c :: d :: b) :
    Seam s c d b ∨ ∃ before after,
      blockCuts s = before ++ .stays c :: .stays d :: after ∧ after.flatMap Cut.left = b := by
  rw [← flatMap_left_blockCuts] at h
  obtain ⟨before, comments, after, cuts, goes, last⟩ := exists_comments_of_left h
  by_cases none : comments = []
  · subst none
    exact .inr ⟨before, after, cuts, last⟩
  · exact .inl ⟨before, comments, after, cuts, none, goes, last⟩

/-- Characters that stay and meet are side by side in the text. -/
theorem infix_of_beside {s : List Char} {c d : Char} {before after : List Cut}
    (h : blockCuts s = before ++ .stays c :: .stays d :: after) : [c, d] <:+: s := by
  refine ⟨before.flatMap Cut.source, after.flatMap Cut.source, ?_⟩
  rw [← flatMap_source_blockCuts s, h]
  simp [Cut.source]

/-! ## comments in the copy -/

/-- The copy holds a comment exactly if what the removals leave does. -/
theorem uncommented_squeeze_iff (s : List Char) : Uncommented (squeeze s) ↔ Uncommented s := by
  have dashes : InWord ['-', '-'] := by decide
  have opening : InWord ['/', '*'] := by decide
  have closing : InWord ['*', '/'] := by decide
  rw [Uncommented, Uncommented, infix_squeeze_iff dashes, inOrder_squeeze_iff opening closing]

/-- No comment is left exactly if none is joined. -/
theorem uncommented_stripped_iff (query : List Char) :
    Uncommented (stripped query) ↔ ¬ JoinsComment query := by
  constructor
  · intro free joined
    cases joined with
    | @line rest seam =>
        obtain ⟨a, left⟩ := seam.left
        exact free.1 ⟨a, rest, by rw [stripped, left]; simp⟩
    | @block rest seam closed =>
        obtain ⟨a, left⟩ := seam.left
        exact free.2 ⟨a, rest, by rw [stripped, left]; simp, closed⟩
  · intro free
    refine ⟨?_, ?_⟩
    · intro found
      obtain ⟨a, b, parts⟩ := found
      have left : dropBlockComments (dropLineComments query) = a ++ '-' :: '-' :: b := by
        rw [← stripped, ← parts]
        simp
      obtain seam | ⟨before, after, cuts, -⟩ := seam_or_beside left
      · exact free (.line seam)
      · exact not_infix_dropLineComments query (infix_of_beside cuts)
    · intro found
      obtain ⟨a, b, parts, closed⟩ := found
      have left : dropBlockComments (dropLineComments query) = a ++ '/' :: '*' :: b := by
        rw [← stripped, parts]
        simp
      obtain seam | ⟨before, after, cuts, rfl⟩ := seam_or_beside left
      · exact free (.block seam closed)
      · exact noClose_behind_open cuts closed

/-! ## cleaning a copy -/

/-- A removal that changes nothing finds no comment. -/
theorem isStaying_of_left_eq_source {cuts : List Cut}
    (full : ∀ comment, .goes comment ∈ cuts → comment ≠ [])
    (h : cuts.flatMap Cut.left = cuts.flatMap Cut.source) : ∀ cut ∈ cuts, cut.isStaying = true := by
  induction cuts with
  | nil => simp
  | cons cut cuts ih =>
      have later := fun comment mem => full comment (List.mem_cons_of_mem cut mem)
      cases cut with
      | stays c =>
          have rest : cuts.flatMap Cut.left = cuts.flatMap Cut.source := (List.cons.inj h).2
          exact List.forall_mem_cons.mpr ⟨rfl, ih later rest⟩
      | goes comment =>
          have shorter := (left_sublist_source cuts).length_le
          have same := congrArg List.length h
          have some_ := List.length_pos_iff.mpr (full comment List.mem_cons_self)
          simp only [List.flatMap_cons, Cut.left, Cut.source, List.nil_append,
            List.length_append] at same
          omega

/-- Where nothing is removed there is no seam. -/
theorem not_seam_of_eq {s rest : List Char} {c d : Char} (same : dropBlockComments s = s) :
    ¬ Seam s c d rest := by
  intro seam
  obtain ⟨before, comments, after, cuts, some_, goes, -⟩ := seam
  obtain ⟨cut, mem⟩ := List.exists_mem_of_ne_nil comments some_
  have full : ∀ comment, .goes comment ∈ blockCuts s → comment ≠ [] := by
    intro comment gone
    obtain ⟨body, rfl, -⟩ := eq_marks_of_goes gone
    simp
  have unchanged : (blockCuts s).flatMap Cut.left = (blockCuts s).flatMap Cut.source := by
    rw [flatMap_left_blockCuts, flatMap_source_blockCuts, same]
  have stays := isStaying_of_left_eq_source full unchanged cut (by simp [cuts, mem])
  rw [goes cut mem] at stays
  contradiction

/-- A text that cleaning does not change holds no comment. -/
theorem uncommented_of_clean_eq {s : List Char} (h : clean s = s) : Uncommented s := by
  have copy := length_squeeze_le (dropBlockComments (dropLineComments s))
  have blocks := (dropBlockComments_sublist (dropLineComments s)).length_le
  have lines := (dropLineComments_sublist s).length_le
  rw [← clean, h] at copy
  have sameLines : dropLineComments s = s :=
    (dropLineComments_sublist s).eq_of_length_le (by omega)
  rw [sameLines] at blocks copy
  have sameBlocks : dropBlockComments s = s := (dropBlockComments_sublist s).eq_of_length_le copy
  refine ⟨sameLines ▸ not_infix_dropLineComments s, ?_⟩
  intro found
  obtain ⟨a, b, parts, closed⟩ := found
  have left : dropBlockComments s = a ++ '/' :: '*' :: b := by
    rw [sameBlocks, parts]
    simp
  obtain seam | ⟨before, after, cuts, rfl⟩ := seam_or_beside left
  · exact not_seam_of_eq sameBlocks seam
  · exact noClose_behind_open cuts closed

/-- Cleaning again changes nothing exactly if there is no comment in the copy. -/
theorem clean_eq_self_iff (query : List Char) :
    clean (clean query) = clean query ↔ Uncommented (clean query) := by
  constructor
  · exact uncommented_of_clean_eq
  · intro free
    rw [clean_of_uncommented free, clean, squeeze_squeeze]

/-- **The copy of a query holds no comment exactly if its cleaning makes none of what it joins**,
and exactly then cleaning the copy once more does not change it. -/
theorem clean_clean_iff (query : List Char) :
    (Uncommented (clean query) ↔ ¬ JoinsComment query) ∧
      (clean (clean query) = clean query ↔ ¬ JoinsComment query) := by
  have free : Uncommented (clean query) ↔ ¬ JoinsComment query := by
    rw [clean_eq_squeeze_stripped, uncommented_squeeze_iff, uncommented_stripped_iff]
  exact ⟨free, (clean_eq_self_iff query).trans free⟩

theorem clean_joined_hyphens : clean "-/**/-".toList = "--".toList := by decide +kernel

theorem clean_joined_marks : clean "//**/* */".toList = "/* */".toList := by decide +kernel

/-- The copy of a query may hold a comment of either kind, and cleaning it once more may change
it. -/
theorem comment_in_copy :
    (¬ ∀ query, ¬ ['-', '-'] <:+: clean query) ∧
      (¬ ∀ query, ¬ InOrder ['/', '*'] ['*', '/'] (clean query)) ∧
      ¬ ∀ query, clean (clean query) = clean query := by
  refine ⟨fun h => ?_, fun h => ?_, fun h => ?_⟩
  · refine h "-/**/-".toList ?_
    rw [clean_joined_hyphens]
    exact ⟨[], [], rfl⟩
  · refine h "//**/* */".toList ?_
    rw [clean_joined_marks]
    exact ⟨[], [' ', '*', '/'], rfl, [' '], [], rfl⟩
  · have again := h "-/**/-".toList
    rw [clean_joined_hyphens] at again
    revert again
    decide +kernel

end QueryGuard.Query
