import QueryGuard.Pattern.Search

/-!
# QueryGuard.Pattern.Lemmas

The search finds exactly the matches.

* `matches_nil_iff` — `describesEmpty` tells which patterns describe the empty piece;
* `matches_cons_iff` — `residues` tells what may follow the first character of a piece;
* `occursIn_iff` and `startsIn_iff` — the searches succeed exactly if there is a match somewhere in
  the text, or at its start.
-/

namespace QueryGuard.Pattern

/-! ## the empty piece -/

/-- A row of two patterns describes the empty piece where both do. -/
theorem matches_seq_nil {p q : Pattern} {before after : List Char} :
    Matches (.seq p q) before [] after ↔ Matches p before [] after ∧ Matches q before [] after := by
  constructor
  · intro h
    generalize hm : ([] : List Char) = m at h
    cases h with
    | seq first second =>
      obtain ⟨rfl, rfl⟩ := List.append_eq_nil_iff.mp hm.symm
      exact ⟨by simpa using first, by simpa using second⟩
  · intro found
    obtain ⟨first, second⟩ := found
    have row : Matches (.seq p q) before ([] ++ []) after :=
      .seq (by simpa using first) (by simpa using second)
    simpa using row

/-- The test for the empty piece is exact. -/
theorem matches_nil_iff {p : Pattern} {before after : List Char} :
    Matches p before [] after ↔ describesEmpty before.getLast? after.head? p = true := by
  induction p with
  | never => exact ⟨fun h => (by cases h), fun h => (by cases h)⟩
  | empty => exact ⟨fun _ => rfl, fun _ => .empty⟩
  | one k => exact ⟨fun h => (by cases h), fun h => (by cases h)⟩
  | seq p q ihp ihq => rw [matches_seq_nil, ihp, ihq, describesEmpty, Bool.and_eq_true]
  | alt p q ihp ihq =>
      rw [describesEmpty, Bool.or_eq_true, ← ihp, ← ihq]
      constructor
      · intro h
        cases h with
        | left here => exact .inl here
        | right here => exact .inr here
      · intro found
        obtain here | here := found
        · exact .left here
        · exact .right here
  | many p _ => exact ⟨fun _ => rfl, fun _ => .done⟩
  | unlessAfter k =>
      rw [describesEmpty, Bool.not_eq_true']
      exact ⟨fun h => (by cases h; assumption), .unlessAfter⟩
  | unlessBefore k =>
      rw [describesEmpty, Bool.not_eq_true']
      exact ⟨fun h => (by cases h; assumption), .unlessBefore⟩
  | edge =>
      rw [describesEmpty, bne_iff_ne]
      exact ⟨fun h => (by cases h; assumption), .edge⟩

/-! ## the first character of a piece -/

/-- A row of two patterns, split after the piece of the first. -/
theorem matches_seq_iff {p q : Pattern} {before piece after : List Char} :
    Matches (.seq p q) before piece after ↔
      ∃ m n, piece = m ++ n ∧ Matches p before m (n ++ after) ∧
        Matches q (before ++ m) n after := by
  constructor
  · intro h
    cases h with
    | seq first second => exact ⟨_, _, rfl, first, second⟩
  · intro found
    obtain ⟨m, n, rfl, first, second⟩ := found
    exact .seq first second

/-- Leaving out an empty first part changes nothing. -/
theorem matches_join_iff {p q : Pattern} {before piece after : List Char} :
    Matches (join p q) before piece after ↔ Matches (.seq p q) before piece after := by
  cases p with
  | empty =>
      rw [matches_seq_iff]
      constructor
      · intro h
        exact ⟨[], piece, rfl, .empty, by simpa [join] using h⟩
      · intro found
        obtain ⟨m, n, rfl, first, second⟩ := found
        cases first
        simpa [join] using second
  | _ => rfl

/-- Pieces in a row that are not all empty begin with one that is not. -/
theorem matches_many_cons {p : Pattern} {before after : List Char} {c : Char} {m : List Char} :
    Matches (.many p) before (c :: m) after ↔
      ∃ m₁ m₂, m = m₁ ++ m₂ ∧ Matches p before (c :: m₁) (m₂ ++ after) ∧
        Matches (.many p) (before ++ c :: m₁) m₂ after := by
  constructor
  · intro h
    generalize hq : Pattern.many p = q at h
    generalize hm : c :: m = piece at h
    induction h with
    | @more _ before start _ after first rest _ ih =>
        cases hq
        cases start with
        | nil =>
            obtain ⟨m₁, m₂, rfl, here, further⟩ := ih rfl hm
            exact ⟨m₁, m₂, rfl, by simpa using here, by simpa using further⟩
        | cons d start =>
            rw [List.cons_append, List.cons.injEq] at hm
            obtain ⟨rfl, rfl⟩ := hm
            exact ⟨start, _, rfl, first, rest⟩
    | done => cases hm
    | _ => cases hq
  · intro found
    obtain ⟨m₁, m₂, rfl, first, rest⟩ := found
    exact .more first rest

theorem exists_mem_map {α β : Type} {f : α → β} {l : List α} {P : β → Prop} :
    (∃ b ∈ l.map f, P b) ↔ ∃ a ∈ l, P (f a) := by
  simp only [List.mem_map]
  constructor
  · intro found
    obtain ⟨_, ⟨a, ha, rfl⟩, h⟩ := found
    exact ⟨a, ha, h⟩
  · intro found
    obtain ⟨a, ha, h⟩ := found
    exact ⟨_, ⟨a, ha, rfl⟩, h⟩

/-- The residues of a pattern describe what follows the first character of its pieces. -/
theorem matches_cons_iff {p : Pattern} {before after m : List Char} {c : Char} :
    Matches p before (c :: m) after ↔
      ∃ q ∈ residues before.getLast? c p, Matches q (before ++ [c]) m after := by
  induction p generalizing before m after with
  | never => exact ⟨fun h => (by cases h), by simp [residues]⟩
  | empty => exact ⟨fun h => (by cases h), by simp [residues]⟩
  | unlessAfter k => exact ⟨fun h => (by cases h), by simp [residues]⟩
  | unlessBefore k => exact ⟨fun h => (by cases h), by simp [residues]⟩
  | edge => exact ⟨fun h => (by cases h), by simp [residues]⟩
  | one k =>
      rw [residues]
      constructor
      · intro h
        cases h with
        | one has => exact ⟨.empty, by simp [has], .empty⟩
      · intro found
        obtain ⟨q, hq, here⟩ := found
        split at hq
        · next has =>
          rw [List.mem_singleton] at hq
          subst hq
          cases here
          exact .one has
        · cases hq
  | alt p q ihp ihq =>
      simp only [residues, List.mem_append, or_and_right, exists_or, ← ihp, ← ihq]
      constructor
      · intro h
        cases h with
        | left here => exact .inl here
        | right here => exact .inr here
      · intro found
        obtain here | here := found
        · exact .left here
        · exact .right here
  | many p ih =>
      rw [matches_many_cons, residues]
      simp only [List.mem_map]
      constructor
      · intro found
        obtain ⟨m₁, m₂, rfl, first, rest⟩ := found
        obtain ⟨q, hq, here⟩ := ih.mp first
        refine ⟨_, ⟨q, hq, rfl⟩, ?_⟩
        rw [matches_join_iff, matches_seq_iff]
        exact ⟨m₁, m₂, rfl, here, by simpa using rest⟩
      · intro found
        obtain ⟨_, ⟨q, hq, rfl⟩, here⟩ := found
        rw [matches_join_iff, matches_seq_iff] at here
        obtain ⟨m₁, m₂, rfl, first, rest⟩ := here
        exact ⟨m₁, m₂, rfl, ih.mpr ⟨q, hq, first⟩, by simpa using rest⟩
  | seq p q ihp ihq =>
      have split : Matches (.seq p q) before (c :: m) after ↔
          (∃ r ∈ residues before.getLast? c p, Matches (join r q) (before ++ [c]) m after) ∨
            (describesEmpty before.getLast? (some c) p = true ∧
              ∃ r ∈ residues before.getLast? c q, Matches r (before ++ [c]) m after) := by
        simp only [matches_join_iff, matches_seq_iff, ← ihq]
        constructor
        · intro found
          obtain ⟨start, n, hm, first, second⟩ := found
          cases start with
          | nil =>
              rw [List.nil_append] at hm
              subst hm
              exact .inr ⟨by simpa using matches_nil_iff.mp first, by simpa using second⟩
          | cons d start =>
              rw [List.cons_append, List.cons.injEq] at hm
              obtain ⟨rfl, rfl⟩ := hm
              obtain ⟨r, hr, here⟩ := ihp.mp first
              exact .inl ⟨r, hr, start, n, rfl, here, by simpa using second⟩
        · intro found
          obtain ⟨r, hr, start, n, rfl, here, second⟩ | ⟨first, second⟩ := found
          · exact ⟨c :: start, n, rfl, ihp.mpr ⟨r, hr, here⟩, by simpa using second⟩
          · refine ⟨[], c :: m, rfl, matches_nil_iff.mpr ?_, by simpa using second⟩
            simpa using first
      rw [split, ← exists_mem_map (P := fun r => Matches r (before ++ [c]) m after), residues]
      split
      · next skip => simp only [skip, true_and, List.mem_append, or_and_right, exists_or]
      · next skip => simp only [skip, Bool.false_eq_true, false_and, or_false]

/-! ## the searches -/

/-- A pattern of a set of patterns describes a piece at the start of a text. -/
def Begins (live : List Pattern) (before s : List Char) : Prop :=
  ∃ p ∈ live, ∃ piece after, s = piece ++ after ∧ Matches p before piece after

/-- At the end a piece begins only where a pattern describes the empty one. -/
theorem begins_nil {live : List Pattern} {before : List Char} :
    Begins live before [] ↔ live.any (describesEmpty before.getLast? none) = true := by
  simp only [Begins, List.any_eq_true]
  constructor
  · intro found
    obtain ⟨p, hp, piece, after, h, here⟩ := found
    obtain ⟨rfl, rfl⟩ := List.append_eq_nil_iff.mp h.symm
    exact ⟨p, hp, matches_nil_iff.mp here⟩
  · intro found
    obtain ⟨p, hp, h⟩ := found
    exact ⟨p, hp, [], [], rfl, matches_nil_iff.mpr h⟩

/-- A piece at the start of a text is empty, or begins with the first character and goes on as a
residue says. -/
theorem begins_cons {live : List Pattern} {before cs : List Char} {c : Char} :
    Begins live before (c :: cs) ↔
      live.any (describesEmpty before.getLast? (some c)) = true ∨
        Begins (advance before.getLast? c live) (before ++ [c]) cs := by
  simp only [Begins, List.any_eq_true, advance, List.mem_eraseDups, List.mem_flatMap]
  constructor
  · intro found
    obtain ⟨p, hp, piece, after, h, here⟩ := found
    cases piece with
    | nil =>
        rw [List.nil_append] at h
        subst h
        exact .inl ⟨p, hp, matches_nil_iff.mp here⟩
    | cons d piece =>
        rw [List.cons_append, List.cons.injEq] at h
        obtain ⟨rfl, rfl⟩ := h
        obtain ⟨q, hq, further⟩ := matches_cons_iff.mp here
        exact .inr ⟨q, ⟨p, hp, hq⟩, piece, after, rfl, further⟩
  · intro found
    obtain ⟨p, hp, h⟩ | ⟨q, ⟨p, hp, hq⟩, piece, after, rfl, here⟩ := found
    · exact ⟨p, hp, [], c :: cs, rfl, matches_nil_iff.mpr h⟩
    · exact ⟨p, hp, c :: piece, after, rfl, matches_cons_iff.mpr ⟨q, hq, here⟩⟩

/-- The scan of one start is exact. -/
theorem completes_iff (live : List Pattern) (before s : List Char) :
    completes live before.getLast? s = true ↔ Begins live before s := by
  induction s generalizing live before with
  | nil => rw [completes, begins_nil]
  | cons c cs ih =>
      rw [completes, Bool.or_eq_true, begins_cons, ← ih]
      simp

/-- The scan of all starts is exact. -/
theorem searchFrom_iff (p : Pattern) (live : List Pattern) (before s : List Char) :
    searchFrom p live before.getLast? s = true ↔
      Begins live before s ∨
        ∃ start rest, s = start ++ rest ∧ Begins [p] (before ++ start) rest := by
  induction s generalizing live before with
  | nil =>
      have : (p :: live).any (describesEmpty before.getLast? none) = true ↔
          Begins live before [] ∨ Begins [p] before [] := by
        rw [begins_nil, begins_nil]
        simp [or_comm]
      have only : (∃ start rest, [] = start ++ rest ∧ Begins [p] (before ++ start) rest) ↔
          Begins [p] before [] := by
        constructor
        · intro found
          obtain ⟨start, rest, h, begins⟩ := found
          obtain ⟨rfl, rfl⟩ := List.append_eq_nil_iff.mp h.symm
          simpa using begins
        · intro begins
          exact ⟨[], [], rfl, by simpa using begins⟩
      rw [searchFrom, this, only]
  | cons c cs ih =>
      have here : (p :: live).any (describesEmpty before.getLast? (some c)) = true ∨
          Begins (advance before.getLast? c (p :: live)) (before ++ [c]) cs ↔
            Begins live before (c :: cs) ∨ Begins [p] before (c :: cs) := by
        rw [← begins_cons]
        simp [Begins, or_comm]
      have later : (∃ start rest, c :: cs = start ++ rest ∧ Begins [p] (before ++ start) rest) ↔
          Begins [p] before (c :: cs) ∨
            ∃ start rest, cs = start ++ rest ∧ Begins [p] (before ++ [c] ++ start) rest := by
        constructor
        · intro found
          obtain ⟨start, rest, h, begins⟩ := found
          cases start with
          | nil =>
              rw [List.nil_append] at h
              subst h
              exact .inl (by simpa using begins)
          | cons d start =>
              rw [List.cons_append, List.cons.injEq] at h
              obtain ⟨rfl, rfl⟩ := h
              exact .inr ⟨start, rest, rfl, by simpa using begins⟩
        · intro found
          obtain begins | ⟨start, rest, rfl, begins⟩ := found
          · exact ⟨[], c :: cs, rfl, by simpa using begins⟩
          · exact ⟨c :: start, rest, rfl, by simpa using begins⟩
      have advanced := ih (advance before.getLast? c (p :: live)) (before ++ [c])
      rw [List.getLast?_concat] at advanced
      rw [searchFrom, Bool.or_eq_true, advanced, later, ← or_assoc, here, or_assoc]

/-- **The search finds exactly the matches**: it succeeds on a text if and only if the pattern
describes some piece of the text where that piece stands. -/
theorem occursIn_iff {p : Pattern} {s : List Char} :
    p.occursIn s = true ↔
      ∃ before piece after, s = before ++ piece ++ after ∧ Matches p before piece after := by
  have := searchFrom_iff p [] [] s
  rw [List.getLast?_nil] at this
  rw [occursIn, this]
  simp only [Begins, List.not_mem_nil, false_and, exists_false, false_or, List.mem_singleton,
    exists_eq_left, List.nil_append]
  constructor
  · intro found
    obtain ⟨before, _, rfl, piece, after, rfl, here⟩ := found
    exact ⟨before, piece, after, by simp, here⟩
  · intro found
    obtain ⟨before, piece, after, rfl, here⟩ := found
    exact ⟨before, piece ++ after, by simp, piece, after, rfl, here⟩

/-- The anchored search succeeds exactly if the pattern describes a piece at the start. -/
theorem startsIn_iff {p : Pattern} {s : List Char} :
    p.startsIn s = true ↔ ∃ piece after, s = piece ++ after ∧ Matches p [] piece after := by
  have := completes_iff [p] [] s
  rw [List.getLast?_nil] at this
  rw [startsIn, this]
  simp [Begins]

end QueryGuard.Pattern
