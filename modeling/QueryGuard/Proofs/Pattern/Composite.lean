import QueryGuard.Pattern.Lemmas

/-!
# QueryGuard.Proofs.Pattern.Composite

What the patterns made of others match, one statement for each way to make one:

* `matches_many_one_iff` — a run of characters of a class;
* `matches_inRow_cons` — a row of patterns, taken apart after its first;
* `matches_anyOf_iff` — one of several patterns;
* `matches_text_iff` and `matches_oneOf_iff` — fixed texts in any letter case.
-/

namespace QueryGuard.Pattern

open Text

variable {before piece after : List Char}

/-! ## single conditions -/

theorem matches_empty_iff : Matches .empty before piece after ↔ piece = [] := by
  constructor
  · intro h
    cases h
    rfl
  · intro h
    subst h
    exact .empty

/-- One character of a class is a piece of it. -/
theorem matches_one_iff {k : CharClass} :
    Matches (.one k) before piece after ↔ ∃ c, piece = [c] ∧ k.has c = true := by
  constructor
  · intro h
    cases h with
    | one has => exact ⟨_, rfl, has⟩
  · intro h
    obtain ⟨c, hc, has⟩ := h
    subst hc
    exact .one has

theorem matches_unlessAfter_iff {k : CharClass} :
    Matches (.unlessAfter k) before piece after ↔
      piece = [] ∧ k.hasAt before.getLast? = false := by
  constructor
  · intro h
    cases h with
    | unlessAfter hasNot => exact ⟨rfl, hasNot⟩
  · intro h
    obtain ⟨rfl, hasNot⟩ := h
    exact .unlessAfter hasNot

theorem matches_unlessBefore_iff {k : CharClass} :
    Matches (.unlessBefore k) before piece after ↔
      piece = [] ∧ k.hasAt after.head? = false := by
  constructor
  · intro h
    cases h with
    | unlessBefore hasNot => exact ⟨rfl, hasNot⟩
  · intro h
    obtain ⟨rfl, hasNot⟩ := h
    exact .unlessBefore hasNot

/-- An edge has a word on exactly one side. -/
theorem matches_edge_iff :
    Matches .edge before piece after ↔
      piece = [] ∧ CharClass.word.hasAt before.getLast? ≠ CharClass.word.hasAt after.head? := by
  constructor
  · intro h
    cases h with
    | edge differ => exact ⟨rfl, differ⟩
  · intro h
    obtain ⟨rfl, differ⟩ := h
    exact .edge differ

/-- Any number of characters of a class. -/
theorem matches_many_one_iff {k : CharClass} :
    Matches (.many (.one k)) before piece after ↔ ∀ c ∈ piece, k.has c = true := by
  induction piece generalizing before with
  | nil => exact ⟨fun _ => by simp, fun _ => .done⟩
  | cons c piece ih =>
      rw [matches_many_cons, List.forall_mem_cons]
      constructor
      · intro h
        obtain ⟨m, n, rfl, first, rest⟩ := h
        obtain ⟨d, one, has⟩ := matches_one_iff.mp first
        obtain ⟨rfl, rfl⟩ := List.cons.inj one
        exact ⟨has, ih.mp rest⟩
      · intro h
        exact ⟨[], piece, rfl, .one h.1, ih.mpr h.2⟩

/-! ## rows and choices -/

/-- An alternative is a piece of one of the two. -/
theorem matches_alt_iff {p q : Pattern} :
    Matches (.alt p q) before piece after ↔
      Matches p before piece after ∨ Matches q before piece after := by
  constructor
  · intro h
    cases h with
    | left here => exact .inl here
    | right here => exact .inr here
  · intro h
    cases h with
    | inl here => exact .left here
    | inr here => exact .right here

theorem matches_inRow_nil_iff : Matches (inRow []) before piece after ↔ piece = [] :=
  matches_empty_iff

/-- A row of patterns is its first and then the row of the others, also if there are no others. -/
theorem matches_inRow_cons {p : Pattern} {ps : List Pattern} :
    Matches (inRow (p :: ps)) before piece after ↔
      Matches (.seq p (inRow ps)) before piece after := by
  cases ps with
  | nil =>
      rw [inRow, inRow, matches_seq_iff]
      constructor
      · intro h
        exact ⟨piece, [], by simp, by simpa using h, .empty⟩
      · intro h
        obtain ⟨m, n, rfl, first, second⟩ := h
        cases matches_empty_iff.mp second
        simpa using first
  | cons q ps => rw [inRow]; exact fun h => nomatch h

/-- A piece of any of several patterns is a piece of one of them. -/
theorem matches_anyOf_iff {ps : List Pattern} :
    Matches (anyOf ps) before piece after ↔ ∃ p ∈ ps, Matches p before piece after := by
  induction ps with
  | nil =>
      constructor
      · intro h
        cases h
      · intro h
        obtain ⟨p, hp, _⟩ := h
        cases hp
  | cons p ps ih =>
      cases ps with
      | nil => simp [anyOf]
      | cons q qs =>
          have split : (∃ r ∈ p :: q :: qs, Matches r before piece after) ↔
              Matches p before piece after ∨ Matches (anyOf (q :: qs)) before piece after := by
            rw [ih]
            simp only [List.mem_cons, or_and_right, exists_or, exists_eq_left]
          rw [split, anyOf]
          · exact matches_alt_iff
          · exact fun h => nomatch h

/-! ## fixed texts -/

/-- Letters in a row match what is folded to them. -/
theorem matches_letters_iff {cs : List Char} :
    Matches (inRow (cs.map fun c => .one (.letter c))) before piece after ↔ FoldEq piece cs := by
  induction cs generalizing before piece with
  | nil =>
      rw [List.map_nil, inRow, matches_empty_iff, FoldEq, List.map_nil, List.map_eq_nil_iff]
  | cons c cs ih =>
      rw [List.map_cons, matches_inRow_cons, matches_seq_iff]
      simp only [ih, matches_one_iff]
      constructor
      · intro h
        obtain ⟨_, n, rfl, ⟨d, rfl, has⟩, rest⟩ := h
        rw [CharClass.has, beq_iff_eq] at has
        rw [FoldEq, List.singleton_append, List.map_cons, List.map_cons, has, rest]
      · intro h
        cases piece with
        | nil => cases h
        | cons d n =>
            rw [FoldEq, List.map_cons, List.map_cons, List.cons.injEq] at h
            exact ⟨[d], n, rfl, ⟨d, rfl, by rw [CharClass.has, beq_iff_eq, h.1]⟩, h.2⟩

/-- A fixed text matches the texts that differ from it in letter case only. -/
theorem matches_text_iff {s : String} :
    Matches (text s) before piece after ↔ FoldEq piece s.toList := matches_letters_iff

/-- One of several texts matches what is folded to it. -/
theorem matches_oneOf_iff {texts : List String} :
    Matches (oneOf texts) before piece after ↔ ∃ s ∈ texts, FoldEq piece s.toList := by
  rw [oneOf, matches_anyOf_iff, exists_mem_map (P := fun p => Matches p before piece after)]
  simp only [matches_text_iff]

end QueryGuard.Pattern
