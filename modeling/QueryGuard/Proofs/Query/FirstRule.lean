import Mathlib.Data.List.Nodup
import QueryGuard.Proofs.Query.CallShape
import QueryGuard.Tool.Run

/-!
# QueryGuard.Proofs.Query.FirstRule

The rule under which a submission is rejected.

What a rule forbids is said for each rule by itself (`Rule.Forbids`), without regard to the others.
The verdict names the first rule in the order of `Rule.all` that forbids what was submitted, and
what no rule forbids is accepted (`verdict_first_rule`).

To the caller a verdict tells the kind of the rule and, for a keyword, the keyword.  It tells
nothing of the text, nor which of the shapes was found.
-/

namespace QueryGuard

open Query Text

/-! ## the rules -/

namespace Rule

/-- All rules in the order in which they are tried.  Each denied keyword and each refused shape has
a rule of its own. -/
def all : List Rule :=
  [.empty, .length, .commentOnly, .leadingVerb] ++ deniedKeywords.map Rule.keyword ++
    Shape.all.map Rule.shape ++ [.multiStatement, .charConversion]

/-- Whether a rule forbids a text, whatever other rules forbid it. -/
def Forbids (query : List Char) : Rule → Prop
  | .empty => ∀ c ∈ query, isBlank c = true
  | .length => 10000 < query.length
  | .commentOnly => clean query = []
  | .leadingVerb => ¬ StartsWithVerb (clean query)
  | .keyword word => StandsIn word (clean query)
  | .shape s => ∃ before piece after, query = before ++ piece ++ after ∧
      Pattern.Matches s.pattern before piece after
  | .multiStatement => 1 < (statements (clean query)).length
  | .charConversion => CallsIn charFunctions query

/-- Whether two rules are one, or both are rules about shapes. -/
def SameKind (r r' : Rule) : Prop := r = r' ∨ ∃ s s', r = .shape s ∧ r' = .shape s'

/-- A rule is broken exactly if it forbids the query. -/
theorem isBroken_iff (query : List Char) (rule : Rule) :
    isBroken (clean query) query rule = true ↔ rule.Forbids query := by
  cases rule with
  | empty => exact List.all_eq_true
  | length => exact decide_eq_true_iff
  | commentOnly => exact List.isEmpty_iff
  | leadingVerb =>
      rw [isBroken, Bool.not_eq_true', ← Bool.not_eq_true, hasLeadingVerb_iff_startsWithVerb,
        Forbids]
  | keyword word => exact hasKeyword_iff_standsIn
  | shape s => exact Pattern.occursIn_iff
  | multiStatement => exact decide_eq_true_iff
  | charConversion => exact hasCharConversion_iff

theorem rules_standard : Policy.standard.rules = all := by
  simp [Policy.rules, Policy.laterRules, Policy.standard, all]

/-! ## the reasons given to the caller -/

/-- One rule of each kind, apart from the keywords. -/
def plain : List Rule :=
  [.empty, .length, .commentOnly, .leadingVerb, .shape .selectInto, .multiStatement,
    .charConversion]

/-- Each rule but the keywords is of the kind of a plain one. -/
theorem exists_plain {r : Rule} (h : ∀ word, r ≠ .keyword word) : ∃ p ∈ plain, SameKind r p := by
  cases r with
  | keyword word => exact absurd rfl (h word)
  | shape s => exact ⟨.shape .selectInto, by decide, .inr ⟨s, _, rfl, rfl⟩⟩
  | empty | length | commentOnly | leadingVerb | multiStatement | charConversion =>
      exact ⟨_, by decide, .inl rfl⟩

/-- Rules of the kind of a third one are of the same kind. -/
theorem SameKind.of_common {r r' p : Rule} (h : SameKind r p) (h' : SameKind r' p) :
    SameKind r r' := by
  obtain rfl | ⟨s, t, rfl, rfl⟩ := h
  · obtain rfl | ⟨s', t', rfl, rfl⟩ := h'
    · exact .inl rfl
    · exact .inr ⟨t', s', rfl, rfl⟩
  · obtain rfl | ⟨s', t', rfl, _⟩ := h'
    · exact .inr ⟨s, t, rfl, rfl⟩
    · exact .inr ⟨s, s', rfl, rfl⟩

/-- Rules of the same kind give the same reason. -/
theorem SameKind.reason_eq {r r' : Rule} (h : SameKind r r') : r.reason = r'.reason := by
  obtain rfl | ⟨s, s', rfl, rfl⟩ := h
  · rfl
  · rfl

/-- The reasons are told apart by a single byte of each. -/
def mark (r : Rule) : Option UInt8 := r.reason.toByteArray.data[16]?

theorem map_mark_plain : plain.map mark = [110, 103, 101, 32, 99, 116, 115].map some := by
  decide +kernel

theorem nodup_map_mark_plain : (plain.map mark).Nodup := by
  rw [map_mark_plain]
  decide

theorem reason_keyword (word : String) :
    (keyword word).reason = "Dangerous keyword '" ++ word ++
      "' detected in query. Only SELECT operations are allowed." := rfl

/-- The reason of a keyword tells the keyword. -/
theorem keyword_inj_of_reason {word word' : String}
    (h : (keyword word).reason = (keyword word').reason) : word = word' := by
  rw [reason_keyword, reason_keyword, String.append_left_inj, String.append_right_inj] at h
  exact h

theorem mark_keyword (word : String) : mark (keyword word) = some 100 := by
  have inFront : 16 < "Dangerous keyword '".toByteArray.data.size := by decide +kernel
  rw [mark, reason_keyword, String.append_assoc, String.toByteArray_append, ByteArray.data_append,
    Array.getElem?_append_left inFront]
  decide +kernel

/-- No other rule gives the reason of a keyword. -/
theorem reason_keyword_ne {r : Rule} (h : ∀ word, r ≠ .keyword word) (word : String) :
    r.reason ≠ (keyword word).reason := by
  obtain ⟨p, hp, kind⟩ := exists_plain h
  intro same
  have marked : mark p = some 100 := by
    rw [← mark_keyword word, mark, mark, ← same, kind.reason_eq]
  have listed : some 100 ∈ plain.map mark := marked ▸ List.mem_map_of_mem hp
  rw [map_mark_plain] at listed
  revert listed
  decide

/-- The reason tells the kind of the rule, and the keyword if it is about one, and no more. -/
theorem reason_eq_iff {r r' : Rule} : r.reason = r'.reason ↔ SameKind r r' := by
  refine ⟨?_, SameKind.reason_eq⟩
  intro same
  by_cases h : ∃ word, r = .keyword word
  · obtain ⟨word, rfl⟩ := h
    by_cases h' : ∃ word', r' = .keyword word'
    · obtain ⟨word', rfl⟩ := h'
      exact .inl (congrArg keyword (keyword_inj_of_reason same))
    · exact absurd same.symm (reason_keyword_ne (not_exists.mp h') word)
  · by_cases h' : ∃ word', r' = .keyword word'
    · obtain ⟨word', rfl⟩ := h'
      exact absurd same (reason_keyword_ne (not_exists.mp h) word')
    · obtain ⟨p, hp, kind⟩ := exists_plain (not_exists.mp h)
      obtain ⟨p', hp', kind'⟩ := exists_plain (not_exists.mp h')
      have one : p = p' := by
        apply List.inj_on_of_nodup_map nodup_map_mark_plain hp hp'
        rw [mark, mark, ← kind.reason_eq, ← kind'.reason_eq, same]
      exact kind.of_common (one ▸ kind')

end Rule

/-! ## submissions -/

namespace Tool.Submission

/-- Whether a rule forbids what was submitted.  What is no text is forbidden as empty and by no
other rule. -/
def Forbidden : Submission → Rule → Prop
  | text sql, rule => rule.Forbids sql.toList
  | _, rule => rule = .empty

/-- The test for `Forbidden`. -/
def breaks : Submission → Rule → Bool
  | text sql, rule => isBroken (clean sql.toList) sql.toList rule
  | _, rule => rule == .empty

/-- A submission breaks the rules that forbid it. -/
theorem breaks_iff (submission : Submission) (rule : Rule) :
    submission.breaks rule = true ↔ submission.Forbidden rule := by
  cases submission with
  | text sql => exact rule.isBroken_iff sql.toList
  | missing | flag _ | whole _ | fraction _ => exact beq_iff_eq

/-- The rule in the verdict is the first that the submission breaks. -/
theorem rule?_verdict (submission : Submission) :
    submission.verdict.rule? = Rule.all.find? submission.breaks := by
  cases submission with
  | text sql =>
      have first : violation? .standard sql.toList = Rule.all.find? (breaks (text sql)) := by
        rw [← Rule.rules_standard]
        exact violationWith?_eq_find? .standard clean sql.toList
      rw [← first, verdict, judge, judgeUnder]
      cases violation? .standard sql.toList with
      | none => rfl
      | some rule => rfl
  | missing | flag _ | whole _ | fraction _ => rfl

end Tool.Submission

theorem Verdict.eq_accepted_iff {verdict : Verdict} :
    verdict = .accepted ↔ verdict.rule? = none := by
  cases verdict <;> simp [rule?]

theorem Verdict.eq_rejected_iff {verdict : Verdict} {rule : Rule} :
    verdict = .rejected rule ↔ verdict.rule? = some rule := by
  cases verdict <;> simp [rule?]

/-- **The first rule that forbids a submission decides**: it is accepted if none does, and otherwise
rejected under the first in the order of the rules.  The reasons for two rejections are the same
exactly if the rules are the same or both are about shapes.  In logs the rules go by the names
listed, one for all keywords and one for each shape. -/
theorem verdict_first_rule (submission : Tool.Submission) :
    (submission.verdict = .accepted ↔ ∀ rule ∈ Rule.all, ¬ submission.Forbidden rule) ∧
      (∀ rule, submission.verdict = .rejected rule ↔
        submission.Forbidden rule ∧ ∃ earlier later, Rule.all = earlier ++ rule :: later ∧
          ∀ other ∈ earlier, ¬ submission.Forbidden other) ∧
      (∀ (other : Tool.Submission) (rule rule' : Rule),
        submission.verdict = .rejected rule → other.verdict = .rejected rule' →
          (rule.reason = rule'.reason ↔ rule.SameKind rule')) ∧
      Rule.all.map Rule.label =
        ["empty", "length", "comment_only", "leading_verb"] ++
          List.replicate deniedKeywords.length "keyword" ++
          ["pattern:select_into", "pattern:separator_keyword", "pattern:union_injection",
            "pattern:line_comment_keyword", "pattern:block_comment_keyword", "pattern:exec_call",
            "pattern:procedure_prefix", "pattern:bulk_insert", "pattern:openrowset",
            "pattern:opendatasource", "pattern:system_variable", "pattern:identity_function",
            "pattern:waitfor_delay", "pattern:multiple_statements", "pattern:char_concat"] ++
          ["multi_statement", "char_conversion"] := by
  refine ⟨?_, ?_, fun _ _ _ _ _ => Rule.reason_eq_iff, by decide⟩
  · rw [Verdict.eq_accepted_iff, submission.rule?_verdict, List.find?_eq_none]
    simp only [submission.breaks_iff]
  · intro rule
    rw [Verdict.eq_rejected_iff, submission.rule?_verdict, List.find?_eq_some_iff_append,
      submission.breaks_iff]
    simp only [Bool.not_eq_true', ← Bool.not_eq_true, submission.breaks_iff]

/-- Of two keywords the one named is the first in the list, not the first in the text. -/
example : (Tool.Submission.text "SELECT 1 INTO t; UPDATE t").verdict =
    .rejected (.keyword "UPDATE") := by
  decide +kernel

end QueryGuard
