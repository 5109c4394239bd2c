import Mathlib.Data.List.Find
import QueryGuard.Query.Gate

/-!
# QueryGuard.Proofs.Query.Acceptance

The chain of rules, taken apart once so that no later proof opens it.

* `violationWith?_eq_find?` — the rule that decides is the first of a list whose own test finds it
  broken;
* `judgeUnder_eq_accepted_iff` — what an accepted query has passed;
* `violationIn?_congr` — texts that answer the single tests alike break the same rule.
-/

namespace QueryGuard

/-- The rules that decide among queries with something in their copy, in the order in which they are
tried.  Each keyword and each shape has a rule of its own. -/
def Policy.laterRules (policy : Policy) : List Rule :=
  .leadingVerb :: (policy.keywords.map .keyword ++
    (policy.shapes.map .shape ++ [.multiStatement, .charConversion]))

/-- All rules in the order in which they are tried. -/
def Policy.rules (policy : Policy) : List Rule :=
  .empty :: .length :: .commentOnly :: policy.laterRules

namespace Query

/-! ## the rules one by one -/

/-- Whether a query breaks a rule, whatever other rules it breaks.  The rules on the cleaned copy
look at `copy`. -/
def isBroken (copy query : List Char) : Rule → Bool
  | .empty => Text.allBlank query
  | .length => maxQueryLength < query.length
  | .commentOnly => copy.isEmpty
  | .leadingVerb => !hasLeadingVerb copy
  | .keyword word => hasKeyword word copy
  | .shape shape => hasShape shape query
  | .multiStatement => 1 < (statements copy).length
  | .charConversion => hasCharConversion query

/-- The violation is the first of the later rules that is broken. -/
theorem violationIn?_eq_find? (policy : Policy) (copy query : List Char) :
    violationIn? policy copy query = policy.laterRules.find? (isBroken copy query) := by
  have keywords : (policy.keywords.map .keyword).find? (isBroken copy query) =
      (policy.keywords.find? (hasKeyword · copy)).map .keyword := List.find?_map
  have shapes : (policy.shapes.map .shape).find? (isBroken copy query) =
      (policy.shapes.find? (hasShape · query)).map .shape := List.find?_map
  have last : [.multiStatement, .charConversion].find? (isBroken copy query) =
      if 1 < (statements copy).length then some .multiStatement
      else if hasCharConversion query then some .charConversion else none := by
    simp only [List.find?_cons, List.find?_nil, isBroken]
    split <;> split <;> simp_all
  rw [violationIn?, Policy.laterRules, List.find?_cons, List.find?_append, List.find?_append,
    keywords, shapes, last, isBroken]
  cases hasLeadingVerb copy with
  | false => rfl
  | true =>
      cases policy.keywords.find? (hasKeyword · copy) with
      | some word => rfl
      | none =>
          cases policy.shapes.find? (hasShape · query) with
          | some shape => rfl
          | none => rfl

/-- The rule that decides is the first in the list that the query breaks. -/
theorem violationWith?_eq_find? (policy : Policy) (copyOf : List Char → List Char)
    (query : List Char) :
    violationWith? policy copyOf query = policy.rules.find? (isBroken (copyOf query) query) := by
  simp only [violationWith?, violationIn?_eq_find?, Policy.rules, List.find?_cons, isBroken]
  cases Text.allBlank query with
  | true => rfl
  | false =>
      by_cases long : maxQueryLength < query.length
      · simp [long]
      · cases (copyOf query).isEmpty with
        | true => simp [long]
        | false => simp [long]

/-- Two copies and two queries that answer the single tests alike break the same rule first. -/
theorem violationIn?_congr {policy : Policy} {copy copy' query query' : List Char}
    (verb : hasLeadingVerb copy = hasLeadingVerb copy')
    (keywords : ∀ word ∈ policy.keywords, hasKeyword word copy = hasKeyword word copy')
    (shapes : ∀ shape ∈ policy.shapes, hasShape shape query = hasShape shape query')
    (many : 1 < (statements copy).length ↔ 1 < (statements copy').length)
    (call : hasCharConversion query = hasCharConversion query') :
    violationIn? policy copy query = violationIn? policy copy' query' := by
  have word := List.find?_congr keywords
  have shape := List.find?_congr shapes
  simp only [violationIn?, verb, word, shape, many, call]

/-! ## accepted queries -/

/-- A query breaks none of the rules. -/
structure Passes (policy : Policy) (query : List Char) : Prop where
  notBlank : Text.allBlank query = false
  short : query.length ≤ maxQueryLength
  leadingVerb : hasLeadingVerb (clean query) = true
  noKeyword : ∀ word ∈ policy.keywords, hasKeyword word (clean query) = false
  noShape : ∀ shape ∈ policy.shapes, hasShape shape query = false
  oneStatement : (statements (clean query)).length ≤ 1
  noCharConversion : hasCharConversion query = false

theorem not_hasLeadingVerb_nil : hasLeadingVerb [] = false := by decide

/-- A query is accepted exactly if it breaks none of the rules. -/
theorem judgeUnder_eq_accepted_iff {policy : Policy} {query : List Char} :
    judgeUnder policy query = .accepted ↔ Passes policy query := by
  have accepted : judgeUnder policy query = .accepted ↔ violation? policy query = none := by
    rw [judgeUnder]
    split
    · next rule broken => simp [broken]
    · next broken => simp [broken]
  rw [accepted, violation?, violationWith?_eq_find?, List.find?_eq_none]
  simp only [Policy.rules, Policy.laterRules, List.forall_mem_cons, List.forall_mem_append,
    List.forall_mem_map, isBroken, Bool.not_eq_true, decide_eq_false_iff_not, Nat.not_lt,
    Bool.not_eq_false']
  constructor
  · intro h
    obtain ⟨blank, short, _, verb, words, shapes, one, call, -⟩ := h
    exact ⟨blank, short, verb, words, shapes, one, call⟩
  · intro h
    have notEmpty : (clean query).isEmpty = false := by
      rw [List.isEmpty_eq_false_iff]
      intro empty
      have verb := h.leadingVerb
      rw [empty, not_hasLeadingVerb_nil] at verb
      contradiction
    exact ⟨h.notBlank, h.short, notEmpty, h.leadingVerb, h.noKeyword, h.noShape, h.oneStatement,
      h.noCharConversion, by simp⟩

theorem judge_eq_accepted_iff {query : List Char} :
    judge query = .accepted ↔ Passes .standard query := judgeUnder_eq_accepted_iff

end Query

end QueryGuard
