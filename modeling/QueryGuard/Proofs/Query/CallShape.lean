import QueryGuard.Proofs.Pattern.Language
import QueryGuard.Proofs.Query.Acceptance
import QueryGuard.Proofs.Query.SpanShape
import QueryGuard.Proofs.Query.Standing

/-!
# QueryGuard.Proofs.Query.CallShape

Calls of functions through gaps.

Between the name of a function and its parenthesis there may be a `Gap`, any blanks and comments in
any order.  The searches for calls find a call through every gap and nothing else (`calls_exact`).

A block comment of a gap ends at any `*/`, not only at the first, so that a gap can fall into items
in more than one way; it is enough that there is one.
-/

namespace QueryGuard.Query

open Text Pattern

variable {functions : List String} {s piece : List Char}

/-! ## gaps and calls -/

/-- An item of a gap: a blank, a block comment with any text in it, or a line comment with its line
feed. -/
inductive GapItem : List Char → Prop
  | blank {c : Char} (h : isBlank c = true) : GapItem [c]
  | block (body : List Char) : GapItem ("/*".toList ++ body ++ "*/".toList)
  | line {body : List Char} (h : '\n' ∉ body) : GapItem ("--".toList ++ body ++ ['\n'])

/-- Any number of items in a row. -/
def Gap (gap : List Char) : Prop :=
  ∃ items : List (List Char), gap = items.flatten ∧ ∀ item ∈ items, GapItem item

/-- A case form of the name of a function, a gap, and a parenthesis. -/
def IsCall (functions : List String) (call : List Char) : Prop :=
  ∃ name gap, call = name ++ gap ++ "(".toList ∧ (∃ f ∈ functions, IsCaseForm f name) ∧ Gap gap

/-- A function is called in a text, with no character of a name before its name. -/
def CallsIn (functions : List String) (s : List Char) : Prop :=
  ∃ a call b, s = a ++ call ++ b ∧ Clear a.getLast? ∧ IsCall functions call

/-- A text asks who or where the user is, by a name that stands by itself or by a call. -/
def AsksIdentity (s : List Char) : Prop :=
  (∃ name ∈ userNames, StandsIn name s) ∨ CallsIn identityFunctions s

/-- Behind some `+` or `||` and any blanks stands a call of a function that turns numbers into
text. -/
def JoinsCharCall (s : List Char) : Prop :=
  ∃ a operator blanks call b, s = a ++ operator ++ blanks ++ call ++ b ∧
    (operator = "+".toList ∨ operator = "||".toList) ∧ (∀ c ∈ blanks, isBlank c = true) ∧
    IsCall charFunctions call

/-! ## the pattern of a call -/

theorem mem_language_newline :
    piece ∈ (Pattern.one (.letter '\n')).language ↔ piece = ['\n'] := by
  have newline : IsMark "\n" := by decide
  exact mem_language_mark newline

/-- A block comment in a gap is anything between its two marks. -/
theorem mem_language_block :
    piece ∈ (inRow [text "/*", anything, text "*/"]).language ↔
      ∃ body, piece = "/*".toList ++ body ++ "*/".toList := by
  simp only [mem_language_inRow_cons, mem_language_inRow_nil, mem_language_mark isMark_opening,
    mem_language_mark isMark_closing, mem_language_anything, true_and]
  constructor
  · intro h
    obtain ⟨_, _, rfl, rfl, body, _, rfl, _, _, rfl, rfl, rfl⟩ := h
    exact ⟨body, by simp⟩
  · intro h
    obtain ⟨body, rfl⟩ := h
    exact ⟨_, body ++ ("*/".toList ++ []), by simp, rfl, body, _, rfl, _, [], rfl, rfl, rfl⟩

/-- A line comment in a gap goes on to the end of its line. -/
theorem mem_language_line :
    piece ∈ (inRow [text "--", restOfLine, .one (.letter '\n')]).language ↔
      ∃ body, piece = "--".toList ++ body ++ ['\n'] ∧ '\n' ∉ body := by
  simp only [mem_language_inRow_cons, mem_language_inRow_nil, mem_language_mark isMark_dashes,
    mem_language_restOfLine, mem_language_newline]
  constructor
  · intro h
    obtain ⟨_, _, rfl, rfl, body, _, rfl, sameLine, _, _, rfl, rfl, rfl⟩ := h
    exact ⟨body, by simp, sameLine⟩
  · intro h
    obtain ⟨body, rfl, sameLine⟩ := h
    exact ⟨_, body ++ (['\n'] ++ []), by simp, rfl, body, _, rfl, sameLine, _, [], rfl, rfl, rfl⟩

/-- An item of a gap is a blank or a comment. -/
theorem mem_language_gapItem :
    piece ∈ (anyOf [.one .blank, inRow [text "/*", anything, text "*/"],
      inRow [text "--", restOfLine, .one (.letter '\n')]]).language ↔ GapItem piece := by
  simp only [mem_language_anyOf, List.mem_cons, List.not_mem_nil, or_false, exists_eq_or_imp,
    exists_eq_left, mem_language_block, mem_language_line]
  constructor
  · intro h
    obtain ⟨c, rfl, blank⟩ | ⟨body, rfl⟩ | ⟨body, rfl, sameLine⟩ := h
    · exact .blank blank
    · exact .block body
    · exact .line sameLine
  · intro h
    cases h with
    | blank blank => exact .inl ⟨_, rfl, blank⟩
    | block body => exact .inr (.inl ⟨body, rfl⟩)
    | line sameLine => exact .inr (.inr ⟨_, rfl, sameLine⟩)

/-- The pattern between name and parenthesis describes exactly the gaps. -/
theorem mem_language_callGap : piece ∈ callGap.language ↔ Gap piece := by
  rw [callGap, language, Language.mem_kstar, Gap]
  simp only [mem_language_gapItem]

/-- The pattern of a call matches calls of the functions and nothing else. -/
theorem mem_language_callOf : piece ∈ (callOf functions).language ↔ IsCall functions piece := by
  have parenthesis : IsMark "(" := by decide
  rw [callOf]
  simp only [mem_language_inRow_cons, mem_language_inRow_nil, mem_language_oneOf,
    mem_language_callGap, mem_language_mark parenthesis]
  constructor
  · intro h
    obtain ⟨name, _, rfl, named, gap, _, rfl, between, _, _, rfl, rfl, rfl⟩ := h
    exact ⟨name, gap, by simp, named, between⟩
  · intro h
    obtain ⟨name, gap, rfl, named, between⟩ := h
    exact ⟨name, gap ++ ("(".toList ++ []), by simp, named, gap, _, rfl, between, _, [], rfl, rfl,
      rfl⟩

theorem looksBeside_callOf (functions : List String) : (callOf functions).looksBeside = false := by
  have gap : callGap.looksBeside = false := by decide
  rw [callOf, looksBeside_inRow]
  simp [looksBeside_oneOf, looksBeside_text, gap]

/-! ## the searches -/

/-- The pattern of a call is found exactly where one of the functions is called. -/
theorem occursIn_call_iff :
    (Pattern.seq tokenStart (callOf functions)).occursIn s = true ↔ CallsIn functions s := by
  rw [occursIn_iff]
  simp only [matches_tokenStart_seq_iff, joins_eq_false_iff,
    matches_iff_mem_language (looksBeside_callOf functions), mem_language_callOf, CallsIn]

theorem hasCharConversion_iff : hasCharConversion s = true ↔ CallsIn charFunctions s :=
  occursIn_call_iff

/-- The shape is found exactly where the text asks for an identity. -/
theorem hasShape_identityFunction_iff : hasShape .identityFunction s = true ↔ AsksIdentity s := by
  rw [hasShape, Shape.pattern, occursIn_iff]
  simp only [matches_tokenStart_seq_iff, matches_alt_iff, matches_seq_tokenEnd_iff,
    joins_eq_false_iff, matches_oneOf_iff,
    matches_iff_mem_language (looksBeside_callOf identityFunctions),
    mem_language_callOf, ← isCaseForm_iff_foldEq, and_or_left, exists_or]
  refine or_congr ?_ Iff.rfl
  constructor
  · intro h
    obtain ⟨a, k, b, rfl, free, ⟨name, user, spelled⟩, stop⟩ := h
    exact ⟨name, user, a, k, b, rfl, spelled, free, stop⟩
  · intro h
    obtain ⟨name, user, a, k, b, rfl, spelled, free, stop⟩ := h
    exact ⟨a, k, b, rfl, free, ⟨name, user, spelled⟩, stop⟩

/-- Without the names and the calls the shape is not found. -/
theorem not_hasShape_identityFunction (names : ∀ name ∈ userNames, hasKeyword name s = false)
    (calls : ¬ CallsIn identityFunctions s) : hasShape .identityFunction s = false := by
  rw [Bool.eq_false_iff, ne_eq, hasShape_identityFunction_iff]
  intro asks
  obtain ⟨name, user, stands⟩ | found := asks
  · have absent := names name user
    rw [hasKeyword_iff_standsIn.mpr stands] at absent
    contradiction
  · exact calls found

theorem mem_language_operator :
    piece ∈ (oneOf ["+", "||"]).language ↔ piece = "+".toList ∨ piece = "||".toList := by
  have plus : IsMark "+" := by decide
  have bars : IsMark "||" := by decide
  rw [mem_language_oneOf, ← isCaseForm_iff_eq plus, ← isCaseForm_iff_eq bars]
  simp

/-- The shape is found exactly where a text is joined to a call of its functions. -/
theorem hasShape_charConcat_iff : hasShape .charConcat s = true ↔ JoinsCharCall s := by
  have free : Shape.charConcat.pattern.looksBeside = false := by decide
  rw [hasShape, occursIn_iff_mem_language free, Shape.pattern]
  simp only [mem_language_inRow_cons, mem_language_inRow_nil, mem_language_operator,
    mem_language_blanks, mem_language_callOf]
  constructor
  · intro h
    obtain ⟨a, _, b, rfl, operator, _, rfl, joins, blanks, _, rfl, hblanks, call, _, rfl, hcall,
      rfl⟩ := h
    exact ⟨a, operator, blanks, call, b, by simp, joins, hblanks, hcall⟩
  · intro h
    obtain ⟨a, operator, blanks, call, b, rfl, joins, hblanks, hcall⟩ := h
    exact ⟨a, operator ++ (blanks ++ (call ++ [])), b, by simp, operator, _, rfl, joins,
      blanks, _, rfl, hblanks, call, [], rfl, hcall, rfl⟩

/-- **The searches for calls are exact over all gaps**: a call is found exactly if a name of one of
the functions, a gap and a parenthesis stand in a row.  An accepted query holds none. -/
theorem calls_exact (s : List Char) :
    (hasCharConversion s = true ↔ CallsIn charFunctions s) ∧
      (hasShape .identityFunction s = true ↔ AsksIdentity s) ∧
      (hasShape .charConcat s = true ↔ JoinsCharCall s) ∧
      (judge s = .accepted →
        ¬ CallsIn charFunctions s ∧ ¬ AsksIdentity s ∧ ¬ JoinsCharCall s) := by
  refine ⟨hasCharConversion_iff, hasShape_identityFunction_iff, hasShape_charConcat_iff, ?_⟩
  intro accepted
  have passes := judge_eq_accepted_iff.mp accepted
  have noIdentity := passes.noShape .identityFunction (Shape.mem_all _)
  have noConcat := passes.noShape .charConcat (Shape.mem_all _)
  rw [← hasCharConversion_iff, ← hasShape_identityFunction_iff, ← hasShape_charConcat_iff,
    passes.noCharConversion, noIdentity, noConcat]
  simp

end QueryGuard.Query
