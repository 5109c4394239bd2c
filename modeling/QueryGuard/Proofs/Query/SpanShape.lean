import QueryGuard.Proofs.Pattern.Language
import QueryGuard.Query.Gate

/-!
# QueryGuard.Proofs.Query.SpanShape

The four shapes that look for a word at a distance: a write verb in a line comment, in a block
comment or behind a union, and `INTO` behind `SELECT`.

What lies between may be any text in a block comment and any text without a line feed in the other
three (`spans_exact`).  The blanks beside it may hold line feeds in all of them.
-/

namespace QueryGuard.Query

open Text Pattern

variable {s : List Char}

/-- A case form of a verb that begins a write.  It may be part of a longer word. -/
def IsWriteVerb (k : List Char) : Prop := ∃ verb ∈ writeVerbs, IsCaseForm verb k

/-- Nothing, or a case form of `ALL` and blanks. -/
def MaybeAll (piece : List Char) : Prop :=
  piece = [] ∨ ∃ all gap, piece = all ++ gap ∧ IsCaseForm "ALL" all ∧ SomeBlanks gap

/-- Behind some `--` stands a write verb with no line feed between. -/
def WritesInLine (s : List Char) : Prop :=
  ∃ a between verb b, s = a ++ "--".toList ++ between ++ verb ++ b ∧ '\n' ∉ between ∧
    IsWriteVerb verb

/-- Behind some `/*` stands a write verb, and behind that `*/`. -/
def WritesInBlock (s : List Char) : Prop :=
  ∃ a between verb further b,
    s = a ++ "/*".toList ++ between ++ verb ++ further ++ "*/".toList ++ b ∧ IsWriteVerb verb

/-- Behind some `UNION SELECT` or `UNION ALL SELECT` stands a write verb with no line feed
between. -/
def WritesBehindUnion (s : List Char) : Prop :=
  ∃ a union gap all select between verb b,
    s = a ++ union ++ gap ++ all ++ select ++ between ++ verb ++ b ∧
      IsCaseForm "UNION" union ∧ SomeBlanks gap ∧ MaybeAll all ∧ IsCaseForm "SELECT" select ∧
      '\n' ∉ between ∧ IsWriteVerb verb

/-- Behind some `SELECT` stands `INTO` and a blank.  Between the two are blanks, a text without a
line feed, and blanks. -/
def SelectsInto (s : List Char) : Prop :=
  ∃ a select gap between gap' into blank b,
    s = a ++ select ++ gap ++ between ++ gap' ++ into ++ blank :: b ∧
      IsCaseForm "SELECT" select ∧ SomeBlanks gap ∧ '\n' ∉ between ∧ SomeBlanks gap' ∧
      IsCaseForm "INTO" into ∧ isBlank blank = true

/-! ## parts of the shapes -/

theorem isMark_dashes : IsMark "--" := by decide

theorem isMark_opening : IsMark "/*" := by decide

theorem isMark_closing : IsMark "*/" := by decide

theorem mem_language_maybeAll {piece : List Char} :
    piece ∈ (optional (.seq (text "ALL") someBlanks)).language ↔ MaybeAll piece := by
  rw [Pattern.optional, language, Language.mem_add, or_comm, MaybeAll]
  refine or_congr Iff.rfl ?_
  rw [language, Language.mem_mul]
  simp only [mem_language_text, mem_language_someBlanks]
  constructor
  · intro h
    obtain ⟨all, spelled, gap, blanks, rfl⟩ := h
    exact ⟨all, gap, rfl, spelled, blanks⟩
  · intro h
    obtain ⟨all, gap, rfl, spelled, blanks⟩ := h
    exact ⟨all, spelled, gap, blanks, rfl⟩

/-! ## the shapes -/

/-- The shape is found exactly where a verb that writes stands behind two hyphens. -/
theorem hasShape_lineCommentKeyword_iff :
    hasShape .lineCommentKeyword s = true ↔ WritesInLine s := by
  rw [hasShape, Shape.pattern, occursIn_iff_mem_language (by decide)]
  simp only [mem_language_inRow_cons, mem_language_inRow_nil, mem_language_mark isMark_dashes,
    mem_language_restOfLine, mem_language_oneOf]
  constructor
  · intro h
    obtain ⟨a, _, b, rfl, _, _, rfl, rfl, between, _, rfl, sameLine, verb, _, rfl, write, rfl⟩ := h
    exact ⟨a, between, verb, b, by simp, sameLine, write⟩
  · intro h
    obtain ⟨a, between, verb, b, rfl, sameLine, write⟩ := h
    exact ⟨a, "--".toList ++ (between ++ (verb ++ [])), b, by simp, _, _, rfl, rfl,
      between, _, rfl, sameLine, verb, [], rfl, write, rfl⟩

/-- The shape is found exactly where a verb that writes stands between the marks. -/
theorem hasShape_blockCommentKeyword_iff :
    hasShape .blockCommentKeyword s = true ↔ WritesInBlock s := by
  rw [hasShape, Shape.pattern, occursIn_iff_mem_language (by decide)]
  simp only [mem_language_inRow_cons, mem_language_inRow_nil, mem_language_mark isMark_opening,
    mem_language_mark isMark_closing, mem_language_anything, mem_language_oneOf, true_and]
  constructor
  · intro h
    obtain ⟨a, _, b, rfl, _, _, rfl, rfl, between, _, rfl, verb, _, rfl, write, further, _, rfl,
      _, _, rfl, rfl, rfl⟩ := h
    exact ⟨a, between, verb, further, b, by simp, write⟩
  · intro h
    obtain ⟨a, between, verb, further, b, rfl, write⟩ := h
    exact ⟨a, "/*".toList ++ (between ++ (verb ++ (further ++ ("*/".toList ++ [])))), b, by simp,
      _, _, rfl, rfl, between, _, rfl, verb, _, rfl, write, further, _, rfl, _, [], rfl, rfl, rfl⟩

/-- The shape is found exactly where a verb that writes stands behind a union. -/
theorem hasShape_unionInjection_iff :
    hasShape .unionInjection s = true ↔ WritesBehindUnion s := by
  rw [hasShape, Shape.pattern, occursIn_iff_mem_language (by decide)]
  simp only [mem_language_inRow_cons, mem_language_inRow_nil, mem_language_text,
    mem_language_someBlanks, mem_language_maybeAll, mem_language_restOfLine, mem_language_oneOf]
  constructor
  · intro h
    obtain ⟨a, _, b, rfl, union, _, rfl, hunion, gap, _, rfl, hgap, all, _, rfl, hall,
      select, _, rfl, hselect, between, _, rfl, sameLine, verb, _, rfl, write, rfl⟩ := h
    exact ⟨a, union, gap, all, select, between, verb, b, by simp, hunion, hgap, hall, hselect,
      sameLine, write⟩
  · intro h
    obtain ⟨a, union, gap, all, select, between, verb, b, rfl, hunion, hgap, hall, hselect,
      sameLine, write⟩ := h
    exact ⟨a, union ++ (gap ++ (all ++ (select ++ (between ++ (verb ++ []))))), b, by simp,
      union, _, rfl, hunion, gap, _, rfl, hgap, all, _, rfl, hall, select, _, rfl, hselect,
      between, _, rfl, sameLine, verb, [], rfl, write, rfl⟩

/-- Of the blanks behind `INTO` the first is enough. -/
theorem hasShape_selectInto_iff :
    hasShape .selectInto s = true ↔ SelectsInto s := by
  rw [hasShape, Shape.pattern, occursIn_iff_mem_language (by decide)]
  simp only [mem_language_inRow_cons, mem_language_inRow_nil, mem_language_text,
    mem_language_someBlanks, mem_language_restOfLine]
  constructor
  · intro h
    obtain ⟨a, _, b, rfl, select, _, rfl, hselect, gap, _, rfl, hgap, between, _, rfl, sameLine,
      gap', _, rfl, hgap', into, _, rfl, hinto, blanks, _, rfl, ⟨nonempty, hblanks⟩, rfl⟩ := h
    obtain ⟨blank, rest, rfl⟩ := List.exists_cons_of_ne_nil nonempty
    exact ⟨a, select, gap, between, gap', into, blank, rest ++ b, by simp, hselect, hgap, sameLine,
      hgap', hinto, hblanks blank List.mem_cons_self⟩
  · intro h
    obtain ⟨a, select, gap, between, gap', into, blank, b, rfl, hselect, hgap, sameLine, hgap',
      hinto, hblank⟩ := h
    have one : SomeBlanks [blank] := ⟨by simp, by simpa using hblank⟩
    exact ⟨a, select ++ (gap ++ (between ++ (gap' ++ (into ++ ([blank] ++ []))))), b, by simp,
      select, _, rfl, hselect, gap, _, rfl, hgap, between, _, rfl, sameLine, gap', _, rfl, hgap',
      into, _, rfl, hinto, [blank], [], rfl, one, rfl⟩

/-- **The shapes that span a distance are exact.**  A write verb is found behind `--` within the
line, behind `/*` at any distance if `*/` follows it, and behind a union within the line, and `INTO`
is found behind `SELECT` with blanks on both sides of a text without a line feed; in each case also
as a part of a longer word, and wherever in the text it stands. -/
theorem spans_exact (s : List Char) :
    (hasShape .lineCommentKeyword s = true ↔ WritesInLine s) ∧
      (hasShape .blockCommentKeyword s = true ↔ WritesInBlock s) ∧
      (hasShape .unionInjection s = true ↔ WritesBehindUnion s) ∧
      (hasShape .selectInto s = true ↔ SelectsInto s) :=
  ⟨hasShape_lineCommentKeyword_iff, hasShape_blockCommentKeyword_iff,
    hasShape_unionInjection_iff, hasShape_selectInto_iff⟩

end QueryGuard.Query
