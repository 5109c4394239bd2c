import QueryGuard.Proofs.Query.CallShape
import QueryGuard.Proofs.Query.Semicolon

/-!
# QueryGuard.Proofs.Query.Redundant

Shapes that never decide whether a query is accepted.

Two shapes are special cases of rules that come after them:

* the verb of a write behind a semicolon is a word character behind it;
* behind `+` or `||` a call of a function that turns numbers into text is a call of it, since
  neither these marks nor blanks belong to a name.

Without them the same queries are accepted, and a query that breaks neither is rejected under the
same rule (`isAccepted_judgeUnder_reduced`).
-/

namespace QueryGuard

open Query Text

/-- The shapes that no query has without breaking another rule. -/
def Shape.redundant : List Shape := [separatorKeyword, charConcat]

/-- All denied keywords, and the shapes that are not redundant. -/
def Policy.reduced : Policy := ⟨deniedKeywords, Shape.all.filter (· ∉ Shape.redundant)⟩

theorem Verdict.isAccepted_iff {verdict : Verdict} :
    verdict.isAccepted = true ↔ verdict = .accepted := by
  cases verdict <;> simp [isAccepted]

namespace Query

variable {s query : List Char}

/-! ## what the shapes imply -/

theorem isName_of_separated : ∀ verb ∈ separatedVerbs, IsName verb := by decide

/-- What goes on with a verb goes on. -/
theorem goesOn_of_goesOnWithVerb (h : GoesOnWithVerb s) : GoesOn s := by
  obtain ⟨a, gap, verb, b, rfl, blank, word, write, spelled⟩ := h
  have name := isName_of_separated word write
  have folded := isCaseForm_iff_foldEq.mp spelled
  obtain ⟨c, rest, rfl⟩ := List.exists_cons_of_ne_nil (ne_nil_of_foldEq name folded)
  have letter := isIdentifier_of_foldEq name folded c List.mem_cons_self
  exact ⟨a, gap, c, rest ++ b, by simp, blank, isWord_of_isIdentifier letter⟩

/-- What joins a call of a function calls it. -/
theorem callsIn_of_joinsCharCall (h : JoinsCharCall s) : CallsIn charFunctions s := by
  obtain ⟨a, operator, blanks, call, b, rfl, joins, blank, hcall⟩ := h
  have apart : ∀ c ∈ operator ++ blanks, isIdentifier c = false := by
    rw [List.forall_mem_append]
    refine ⟨?_, fun c hc => isIdentifier_of_isBlank (blank c hc)⟩
    have plus : "+".toList.all (!isIdentifier ·) = true := by decide
    have bars : "||".toList.all (!isIdentifier ·) = true := by decide
    obtain rfl | rfl := joins
    · simpa using plus
    · simpa using bars
  have full : operator ++ blanks ≠ [] := by
    obtain rfl | rfl := joins
    · simp
    · simp
  refine ⟨a ++ (operator ++ blanks), call, b, by simp, ?_, hcall⟩
  intro c hc
  rw [List.getLast?_append_of_ne_nil a full] at hc
  rw [← isIdentifier_eq_isNameChar]
  exact apart c (List.mem_of_getLast? hc)

/-- The one shape is found wherever the other is. -/
theorem hasShape_multipleStatements_of_separatorKeyword
    (h : hasShape .separatorKeyword s = true) : hasShape .multipleStatements s = true := by
  rw [hasShape_separatorKeyword_iff] at h
  rw [hasShape_multipleStatements_iff]
  exact goesOn_of_goesOnWithVerb h

/-- A conversion is found wherever its call is joined to a text. -/
theorem hasCharConversion_of_charConcat (h : hasShape .charConcat s = true) :
    hasCharConversion s = true := by
  rw [hasShape_charConcat_iff] at h
  rw [hasCharConversion_iff]
  exact callsIn_of_joinsCharCall h

/-! ## the reduced policy -/

theorem rules_reduced :
    Policy.reduced.rules = Policy.standard.rules.filter (· ∉ Shape.redundant.map Rule.shape) := by
  rfl

/-- A query passes the reduced policy exactly if it passes the usual one. -/
theorem passes_reduced_iff : Passes .reduced query ↔ Passes .standard query := by
  constructor
  · intro h
    have noShape : ∀ shape ∈ Shape.all, hasShape shape query = false := by
      intro shape mem
      by_cases redundant : shape ∈ Shape.redundant
      · rw [Bool.eq_false_iff]
        intro found
        obtain rfl | rfl : shape = .separatorKeyword ∨ shape = .charConcat := by
          simpa [Shape.redundant] using redundant
        · have kept := h.noShape .multipleStatements (by decide)
          rw [hasShape_multipleStatements_of_separatorKeyword found] at kept
          contradiction
        · have call := h.noCharConversion
          rw [hasCharConversion_of_charConcat found] at call
          contradiction
      · exact h.noShape shape (List.mem_filter.mpr ⟨mem, by simpa using redundant⟩)
    exact { h with noShape }
  · intro h
    exact { h with noShape := fun shape mem => h.noShape shape (List.mem_filter.mp mem).1 }

/-- Leaving out elements of a list changes what is found first only if it was left out. -/
theorem find?_filter_or {α : Type} (p q : α → Bool) (l : List α) :
    (l.filter q).find? p = l.find? p ∨ ∃ a, l.find? p = some a ∧ q a = false := by
  induction l with
  | nil => exact .inl rfl
  | cons x l ih =>
      cases hp : p x with
      | true =>
          cases hq : q x with
          | true => exact .inl (by simp [hp, hq])
          | false => exact .inr ⟨x, by simp [hp], hq⟩
      | false =>
          have skip : ((x :: l).filter q).find? p = (l.filter q).find? p := by
            cases hq : q x with
            | true => simp [hp, hq]
            | false => simp [hq]
          rw [skip, List.find?_cons_of_neg (by simp [hp])]
          exact ih

/-- The two policies reject a query under the same rule, unless it has a redundant shape first. -/
theorem judge_eq_or_redundant (query : List Char) :
    judge query = judgeUnder .reduced query ∨
      ∃ shape ∈ Shape.redundant, judge query = .rejected (.shape shape) := by
  simp only [judge, judgeUnder, violation?, violationWith?_eq_find?, rules_reduced]
  obtain same | ⟨rule, first, left⟩ := find?_filter_or (isBroken (clean query) query)
    (· ∉ Shape.redundant.map Rule.shape) Policy.standard.rules
  · rw [same]
    exact .inl rfl
  · obtain ⟨shape, redundant, rfl⟩ := List.mem_map.mp (by simpa using left)
    rw [first]
    exact .inr ⟨shape, redundant, rfl⟩

/-- **Two shapes never decide whether a query is accepted.** -/
theorem isAccepted_judgeUnder_reduced :
    (∀ s, hasShape .separatorKeyword s = true → hasShape .multipleStatements s = true) ∧
      (∀ s, hasShape .charConcat s = true → hasCharConversion s = true) ∧
      ∀ query, (judge query).isAccepted = (judgeUnder .reduced query).isAccepted ∧
        (judge query = judgeUnder .reduced query ∨
          ∃ shape ∈ Shape.redundant, judge query = .rejected (.shape shape)) := by
  refine ⟨fun s => hasShape_multipleStatements_of_separatorKeyword,
    fun s => hasCharConversion_of_charConcat, fun query => ⟨?_, judge_eq_or_redundant query⟩⟩
  rw [Bool.eq_iff_iff, Verdict.isAccepted_iff, Verdict.isAccepted_iff, judge_eq_accepted_iff,
    judgeUnder_eq_accepted_iff, passes_reduced_iff]

/-- The rule that is reported may differ. -/
example :
    judge "SELECT 1||CHAR(2)".toList = .rejected (.shape .charConcat) ∧
      judgeUnder .reduced "SELECT 1||CHAR(2)".toList = .rejected .charConversion := by
  decide +kernel

end Query

end QueryGuard
