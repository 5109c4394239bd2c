import QueryGuard.Proofs.Query.Token
import QueryGuard.Proofs.Text.CaseForms

/-!
# QueryGuard.Proofs.Query.Standing

Words that stand by themselves in a text.

A name goes on over ASCII letters, digits, underscores and the four further case forms of ASCII
letters.  The test for a keyword finds the word exactly where it stands by itself, and the test for
the leading verb finds a verb that stands by itself at the start (`found_iff_standsIn`).

So a text with a keyword in it is one of whose longest runs of name characters the keyword is: a
keyword within a longer run is not found, and one between two other characters is.
-/

namespace QueryGuard.Query

open Text

variable {word : String} {s : List Char} {c? : Option Char}

/-- No name goes on at one side of a position. -/
def Clear (c? : Option Char) : Prop := ∀ c ∈ c?, isNameChar c = false

/-- A case form of the word stands in a text with no character of a name beside it. -/
def StandsIn (word : String) (s : List Char) : Prop :=
  ∃ a k b, s = a ++ k ++ b ∧ IsCaseForm word k ∧ Clear a.getLast? ∧ Clear b.head?

/-- A case form of a reading verb begins a text, with no character of a name after it. -/
def StartsWithVerb (s : List Char) : Prop :=
  ∃ verb ∈ readingVerbs, ∃ k b, s = k ++ b ∧ IsCaseForm verb k ∧ Clear b.head?

/-- The longest runs of name characters in a text, in order; between two other characters in a row
there is an empty one. -/
def nameRuns (s : List Char) : List (List Char) := s.splitOnP fun c => !isNameChar c

/-! ## the tests by positions -/

/-- Beside a character a name ends exactly if the character is clear of it. -/
theorem joins_eq_false_iff : joins c? = false ↔ Clear c? := by
  cases c? with
  | none => simp [Clear]
  | some c => simp [Clear, isIdentifier_eq_isNameChar]

theorem hasKeyword_iff_standsIn : hasKeyword word s = true ↔ StandsIn word s := by
  simp only [hasKeyword_iff, joins_eq_false_iff, ← isCaseForm_iff_foldEq, StandsIn]

theorem hasLeadingVerb_iff_startsWithVerb : hasLeadingVerb s = true ↔ StartsWithVerb s := by
  simp only [hasLeadingVerb_iff, joins_eq_false_iff, ← isCaseForm_iff_foldEq, StartsWithVerb]

/-! ## runs of name characters -/

/-- Within a run of name characters there is no place before which a name does not go on, except its
start. -/
theorem eq_nil_of_clear_getLast? {a : List Char} (full : ∀ c ∈ a, isNameChar c = true)
    (h : Clear a.getLast?) : a = [] := by
  cases last : a.getLast? with
  | none => exact List.getLast?_eq_none_iff.mp last
  | some c =>
      have inName := full c (List.mem_of_getLast? last)
      have notName := h c last
      rw [inName] at notName
      contradiction

theorem eq_nil_of_clear_head? {b : List Char} (full : ∀ c ∈ b, isNameChar c = true)
    (h : Clear b.head?) : b = [] := by
  cases b with
  | nil => rfl
  | cons c b =>
      have inName := full c List.mem_cons_self
      have notName := h c rfl
      rw [inName] at notName
      contradiction

/-- In a run of name characters stands by itself only the whole run. -/
theorem standsIn_run_iff (full : ∀ c ∈ s, isNameChar c = true) :
    StandsIn word s ↔ IsCaseForm word s := by
  constructor
  · intro h
    obtain ⟨a, k, b, rfl, spelled, free, stop⟩ := h
    have noneBefore : a = [] := eq_nil_of_clear_getLast? (fun c hc => full c (by simp [hc])) free
    have noneAfter : b = [] := eq_nil_of_clear_head? (fun c hc => full c (by simp [hc])) stop
    rw [noneBefore, noneAfter]
    simpa using spelled
  · intro spelled
    exact ⟨[], s, [], by simp, spelled, by simp [Clear], by simp [Clear]⟩

/-- A word of name characters stands by itself in a text exactly if it is one of the runs. -/
theorem standsIn_iff_nameRuns (name : IsName word) (s : List Char) :
    StandsIn word s ↔ ∃ run ∈ nameRuns s, IsCaseForm word run := by
  induction s using piece_induction (fun c => !isNameChar c) with
  | piece x noOther =>
      have full : ∀ c ∈ x, isNameChar c = true := by simpa using noOther
      have one : nameRuns x = [x] := List.splitOnP_eq_singleton noOther
      rw [standsIn_run_iff full, one]
      simp
  | step x b t noOther other ih =>
      have full : ∀ c ∈ x, isNameChar c = true := by simpa using noOther
      have parts : nameRuns (x ++ b :: t) = x :: nameRuns t :=
        List.splitOnP_append_cons_of_forall_mem noOther b other t
      have parting : isIdentifier b = false := by
        rw [isIdentifier_eq_isNameChar]
        simpa using other
      have split := hasKeyword_append_cons name parting x t
      rw [hasKeyword_iff_standsIn, hasKeyword_iff_standsIn, hasKeyword_iff_standsIn] at split
      rw [split, standsIn_run_iff full, ih, parts]
      simp

/-! ## the tests -/

/-- **The tests for keywords and for the leading verb are exact**: a denied keyword is found exactly
if a case form of it stands in the text by itself, that is, if it is one of the longest runs of name
characters, and the leading verb exactly if a reading verb begins the text and stands by itself. -/
theorem found_iff_standsIn (s : List Char) :
    (∀ word ∈ deniedKeywords,
        (hasKeyword word s = true ↔ StandsIn word s) ∧
          (hasKeyword word s = true ↔ ∃ run ∈ nameRuns s, IsCaseForm word run)) ∧
      (hasLeadingVerb s = true ↔ StartsWithVerb s) := by
  refine ⟨?_, hasLeadingVerb_iff_startsWithVerb⟩
  intro word denied
  have runs := standsIn_iff_nameRuns (isName_of_denied word denied) s
  exact ⟨hasKeyword_iff_standsIn, hasKeyword_iff_standsIn.trans runs⟩

end QueryGuard.Query
