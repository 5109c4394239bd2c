import Mathlib.Data.List.Induction
import QueryGuard.Proofs.Query.Removal
import QueryGuard.Proofs.Query.Token

/-!
# QueryGuard.Proofs.Query.Remainder

What the removals leave, traced back to the scan of the engine.

* `eq_append_of_joins_kept` and `eq_cons_of_joins_stripped` — an identifier that ends or begins it;
* `segments_eq_of_stripped` — a name that begins it.
-/

namespace QueryGuard.Query

open Text

theorem flatMap_kept_map_char (s : List Char) : (s.map .char).flatMap Segment.kept = s := by
  rw [List.flatMap_map]
  exact List.flatMap_singleton' s

theorem flatMap_kept_of_isBlock {ps : List Segment} (h : ∀ p ∈ ps, p.isBlock = true) :
    ps.flatMap Segment.kept = [] := by
  rw [List.flatMap_eq_nil_iff]
  intro p hp
  have := h p hp
  cases p <;> simp_all [Segment.isBlock, Segment.kept]

/-- If an identifier ends what the removals leave of the segments before a place, only block
comments stand between the identifier and the place. -/
theorem eq_append_of_joins_kept {query : List Char} {ps rest : List Segment}
    (h : segments query = ps ++ rest) (goesOn : rest ≠ [])
    (sameLine : rest.head? ≠ some (.char '\n'))
    (ends : joins (ps.flatMap Segment.kept).getLast? = true) :
    ∃ before c blocks, ps = before ++ .char c :: blocks ∧
      (∀ p ∈ blocks, p.isBlock = true) ∧ isIdentifier c = true := by
  induction ps using List.reverseRecOn generalizing rest with
  | nil => simp at ends
  | append_singleton ps p ih =>
      rw [List.append_assoc, List.singleton_append] at h
      obtain ⟨tail, fits, later⟩ := fits_of_segments h
      cases p with
      | char c =>
          refine ⟨ps, c, [], by simp, by simp, ?_⟩
          simpa [Segment.kept] using ends
      | line body =>
          cases tail with
          | nil => exact absurd (later.symm.trans segments_nil) goesOn
          | cons d tail =>
              have := fits.2 d rfl
              subst this
              rw [segments_newline] at later
              exact absurd (by rw [← later]; rfl) sameLine
      | block body =>
          have front : joins (ps.flatMap Segment.kept).getLast? = true := by
            simpa [Segment.kept] using ends
          obtain ⟨before, c, blocks, rfl, only, name⟩ := ih h (by simp) (by simp) front
          refine ⟨before, c, blocks ++ [.block body], by simp, ?_, name⟩
          intro q hq
          obtain hq | hq := List.mem_append.mp hq
          · exact only q hq
          · rw [List.mem_singleton.mp hq]
            rfl
      | unclosed body =>
          obtain ⟨rfl, _⟩ := fits
          exact absurd (later.symm.trans segments_nil) goesOn

/-- If an identifier begins what the removals leave of a text, and no block comment does, then the
text begins with it. -/
theorem eq_cons_of_joins_stripped {rest : List Char} {qs : List Segment} (h : segments rest = qs)
    (notBlock : ∀ p, qs.head? = some p → p.isBlock = false)
    (begins : joins (stripped rest).head? = true) :
    ∃ c after, qs = .char c :: after ∧ isIdentifier c = true := by
  cases qs with
  | nil =>
      rw [eq_nil_of_segments h, stripped_nil] at begins
      simp at begins
  | cons p qs =>
      obtain ⟨tail, rfl, fits, later⟩ := segments_eq_cons h
      have keepsEnd : ¬ p.LosesEnd := by
        intro lost
        have := notBlock p rfl
        cases p with
        | block body => simp [Segment.isBlock] at this
        | char c => exact lost
        | line body => exact lost
        | unclosed body => exact lost
      rw [stripped_source_append fits keepsEnd] at begins
      cases p with
      | char c => exact ⟨c, qs, rfl, by simpa [Segment.kept] using begins⟩
      | block body => simpa [Segment.isBlock] using notBlock _ rfl
      | unclosed body => simp [Segment.kept, isIdentifier, fold] at begins
      | line body =>
          cases tail with
          | nil =>
              rw [stripped_nil] at begins
              simp [Segment.kept] at begins
          | cons d tail =>
              have := fits.2 d rfl
              subst this
              have next : stripped ('\n' :: tail) = '\n' :: stripped tail :=
                stripped_source_append (p := .char '\n') (by simp [Segment.Fits]) (fun lost => lost)
              rw [next] at begins
              simp [Segment.kept, isIdentifier, fold] at begins

/-- If what the removals leave of a text begins with a name, the text begins with the name, or with
a part of it and a block comment. -/
theorem segments_eq_of_stripped {rest k b : List Char} (left : stripped rest = k ++ b)
    (name : ∀ c ∈ k, isIdentifier c = true) :
    (∃ tail, segments rest = k.map .char ++ segments tail ∧ stripped tail = b) ∨
      ∃ front back body qs, k = front ++ back ∧ back ≠ [] ∧
        segments rest = front.map .char ++ .block body :: qs := by
  induction k generalizing rest with
  | nil => exact .inl ⟨rest, rfl, left⟩
  | cons c k ih =>
      have begins : joins (stripped rest).head? = true := by
        rw [left]
        exact name c List.mem_cons_self
      by_cases block : ∃ p, (segments rest).head? = some p ∧ p.isBlock = true
      · obtain ⟨p, hp, isBlock⟩ := block
        obtain ⟨qs, hqs⟩ := List.head?_eq_some_iff.mp hp
        cases p with
        | block body => exact .inr ⟨[], c :: k, body, qs, rfl, by simp, hqs⟩
        | char _ | line _ | unclosed _ => contradiction
      · have notBlock : ∀ p, (segments rest).head? = some p → p.isBlock = false := by
          intro p hp
          exact Bool.eq_false_iff.mpr fun isBlock => block ⟨p, hp, isBlock⟩
        obtain ⟨d, after, hd, _⟩ := eq_cons_of_joins_stripped rfl notBlock begins
        obtain ⟨tail, rfl, fits, later⟩ := segments_eq_cons hd
        rw [stripped_source_append fits (fun lost => lost)] at left
        obtain ⟨rfl, leftTail⟩ := List.cons.inj left
        obtain ⟨last, hlast, hb⟩ | ⟨front, back, body, qs, rfl, full, hqs⟩ :=
          ih leftTail fun e he => name e (List.mem_cons_of_mem d he)
        · exact .inl ⟨last, by rw [hd, ← later, hlast]; rfl, hb⟩
        · exact .inr ⟨d :: front, back, body, qs, rfl, full, by rw [hd, ← later, hqs]; rfl⟩

end QueryGuard.Query
