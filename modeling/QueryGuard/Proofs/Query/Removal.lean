import QueryGuard.Proofs.Query.Segment
import QueryGuard.Query.Clean

/-!
# QueryGuard.Proofs.Query.Removal

The two removals of comments against the scan of the engine.

The removals agree with the scan as far as no block comment *loses its end*: if `--` stands in its
last line, the removal of line comments takes its closing mark away, and what follows is taken for
a part of the comment.

* `stripped_source_append` — one segment: it leaves what `Segment.kept` says, and the removals go
  on with the rest as if they began there;
* `stripped_eq_append` — any number of segments.
-/

namespace QueryGuard.Query

/-- A query without comments: first without line comments, then what is left without block
comments. -/
def stripped (query : List Char) : List Char := dropBlockComments (dropLineComments query)

theorem clean_eq_squeeze_stripped (query : List Char) :
    clean query = Text.squeeze (stripped query) := rfl

/-- A line comment that begins in the text goes on to its end. -/
def EndsInLineComment (s : List Char) : Prop := ∃ a b, s = a ++ '-' :: '-' :: b ∧ '\n' ∉ b

namespace Segment

/-- The closing mark of a block comment stands in a line after `--`. -/
def LosesEnd : Segment → Prop
  | block body => EndsInLineComment body
  | char _ | line _ | unclosed _ => False

/-- Whether a segment is a block comment that is closed. -/
def isBlock : Segment → Bool
  | block _ => true
  | char _ | line _ | unclosed _ => false

/-- What the removals leave of a segment. -/
def kept : Segment → List Char
  | char c => [c]
  | line _ | block _ => []
  | unclosed body => '/' :: '*' :: dropLineComments body

end Segment

/-! ## line comments -/

/-- A character that begins no line comment stays. -/
theorem dropLineComments_cons {c : Char} {s : List Char}
    (h : ¬ (c = '-' ∧ s.head? = some '-')) :
    dropLineComments (c :: s) = c :: dropLineComments s := by
  rw [dropLineComments.eq_3]
  intro cs hc hcs
  exact h ⟨hc, by simp [hcs]⟩

/-- Of two characters that stand beside each other after the removal, the second is a line feed or
they did so before. -/
theorem head?_dropLineComments {s : List Char} {c : Char}
    (h : (dropLineComments s).head? = some c) : c = '\n' ∨ s.head? = some c := by
  fun_induction dropLineComments s with
  | case1 => simp at h
  | case2 cs ih =>
      obtain newline | front := ih h
      · exact .inl newline
      · exact .inl (head?_fromNewline front)
  | case3 d cs _ _ => exact .inr h

/-- The line pass makes no mark that closes a block comment. -/
theorem noClose_dropLineComments {s : List Char} (h : NoClose s) :
    NoClose (dropLineComments s) := by
  fun_induction dropLineComments s with
  | case1 => exact h
  | case2 cs ih =>
      have later : NoClose cs := (noClose_cons.mp (noClose_cons.mp h).2).2
      exact ih fun close => later (close.trans (List.dropWhile_suffix _).isInfix)
  | case3 d cs _ ih =>
      obtain ⟨first, later⟩ := noClose_cons.mp h
      rw [noClose_cons]
      refine ⟨?_, ih later⟩
      intro close
      obtain hc | hc := head?_dropLineComments close.2
      · simp at hc
      · exact first ⟨close.1, hc⟩

theorem fromNewline_append {s : List Char} (h : '\n' ∈ s) (t : List Char) :
    fromNewline (s ++ t) = fromNewline s ++ t := by
  have stays : ¬ (s.dropWhile (· != '\n')).isEmpty := by
    intro empty
    have all := List.all_eq_true.mp (List.all_takeWhile (p := (· != '\n')) (l := s)) '\n'
    have whole := List.takeWhile_append_dropWhile (p := (· != '\n')) (l := s)
    rw [List.isEmpty_iff.mp empty, List.append_nil] at whole
    rw [whole] at all
    simpa using all h
  rw [fromNewline, List.dropWhile_append, if_neg stays, fromNewline]

/-- A line comment that does not go on to the end of the text ends at a line feed. -/
theorem newline_mem_of_stops {s : List Char} (h : ¬ EndsInLineComment ('-' :: '-' :: s)) :
    '\n' ∈ s :=
  Decidable.not_not.mp fun none => h ⟨[], s, rfl, none⟩

theorem stops_of_append {a s : List Char} (h : ¬ EndsInLineComment (a ++ s)) :
    ¬ EndsInLineComment s := by
  intro ends
  obtain ⟨b, c, rfl, last⟩ := ends
  exact h ⟨a ++ b, c, by simp, last⟩

theorem getLast?_of_append {a s : List Char} {c : Char} (h : s.getLast? = some c) :
    (a ++ s).getLast? = some c := by
  rw [List.getLast?_append, h, Option.some_or]

/-- Line comments are removed from each of two texts by itself, unless one reaches from the first
into the second. -/
theorem dropLineComments_append {s t : List Char} (stops : ¬ EndsInLineComment s)
    (apart : ¬ (s.getLast? = some '-' ∧ t.head? = some '-')) :
    dropLineComments (s ++ t) = dropLineComments s ++ dropLineComments t := by
  fun_induction dropLineComments s with
  | case1 => rfl
  | case2 cs ih =>
      have split : '-' :: '-' :: cs =
          ('-' :: '-' :: cs.takeWhile (· != '\n')) ++ fromNewline cs := by
        simp [fromNewline]
      have newline := newline_mem_of_stops stops
      rw [split] at stops apart
      rw [List.cons_append, List.cons_append, dropLineComments.eq_2, fromNewline_append newline]
      exact ih (stops_of_append stops) fun both => apart ⟨getLast?_of_append both.1, both.2⟩
  | case3 c cs noComment ih =>
      have begins : ¬ (c = '-' ∧ (cs ++ t).head? = some '-') := by
        intro h
        cases cs with
        | nil => exact apart ⟨by simp [h.1], h.2⟩
        | cons d cs => exact noComment cs h.1 (by simpa using h.2)
      rw [← List.singleton_append] at stops apart
      rw [List.cons_append, dropLineComments_cons begins, List.cons_append]
      rw [ih (stops_of_append stops) fun both => apart ⟨getLast?_of_append both.1, both.2⟩]

/-! ## block comments -/

/-- A character that begins no block comment stays. -/
theorem dropBlockComments_cons {c : Char} {s : List Char}
    (h : ¬ (c = '/' ∧ s.head? = some '*')) :
    dropBlockComments (c :: s) = c :: dropBlockComments s := by
  rw [dropBlockComments.eq_3]
  intro cs hc hcs
  exact h ⟨hc, by simp [hcs]⟩

/-- A block comment is removed up to its first close. -/
theorem dropBlockComments_block {body : List Char} (h : NoClose body) (rest : List Char) :
    dropBlockComments ('/' :: '*' :: (body ++ '*' :: '/' :: rest)) = dropBlockComments rest := by
  rw [dropBlockComments]
  split
  · next rest' closed =>
    rw [afterClose?_append h] at closed
    cases closed
    rfl
  · next open_ =>
    rw [afterClose?_append h] at open_
    cases open_

/-- A block comment that is not closed stays. -/
theorem dropBlockComments_unclosed {body : List Char} (h : NoClose body) :
    dropBlockComments ('/' :: '*' :: body) = '/' :: '*' :: body := by
  rw [dropBlockComments]
  split
  · next rest closed =>
    rw [afterClose?_eq_none h] at closed
    cases closed
  · rfl

/-! ## segments -/

theorem stripped_nil : stripped [] = [] := by rw [stripped, dropLineComments, dropBlockComments]

/-- The removals take from one segment what they take from it alone, and go on with the rest. -/
theorem stripped_source_append {p : Segment} {rest : List Char} (fits : p.Fits rest)
    (keepsEnd : ¬ p.LosesEnd) : stripped (p.source ++ rest) = p.kept ++ stripped rest := by
  cases p with
  | char c =>
      obtain ⟨notLine, notBlock⟩ := fits
      have noBlock : ¬ (c = '/' ∧ (dropLineComments rest).head? = some '*') := by
        intro h
        obtain hc | hc := head?_dropLineComments h.2
        · simp at hc
        · exact notBlock ⟨h.1, hc⟩
      rw [stripped, Segment.source, Segment.kept, List.singleton_append, List.singleton_append,
        dropLineComments_cons notLine, dropBlockComments_cons noBlock, stripped]
  | line body =>
      obtain ⟨noNewline, next⟩ := fits
      have ends : fromNewline (body ++ rest) = rest := by
        rw [fromNewline, List.dropWhile_append_of_pos]
        · cases rest with
          | nil => rfl
          | cons c rest =>
              rw [next c rfl]
              rfl
        · intro c hc
          rw [bne_iff_ne]
          intro h
          exact noNewline (h ▸ hc)
      rw [stripped, Segment.source, Segment.kept, List.cons_append, List.cons_append,
        dropLineComments.eq_2, ends, List.nil_append, stripped]
  | block body =>
      have apart : ¬ (body.getLast? = some '-' ∧ ('*' :: '/' :: rest).head? = some '-') := by
        simp
      have inside : dropLineComments (body ++ '*' :: '/' :: rest) =
          dropLineComments body ++ '*' :: '/' :: dropLineComments rest := by
        rw [dropLineComments_append keepsEnd apart, dropLineComments_cons (by simp),
          dropLineComments_cons (by simp)]
      rw [stripped, Segment.source, Segment.kept, List.cons_append, List.cons_append,
        List.append_assoc, List.cons_append, List.cons_append, List.nil_append,
        dropLineComments_cons (by simp), dropLineComments_cons (by simp), inside,
        dropBlockComments_block (noClose_dropLineComments fits), List.nil_append, stripped]
  | unclosed body =>
      obtain ⟨rfl, noClose⟩ := fits
      rw [stripped_nil, stripped, Segment.source, Segment.kept, List.append_nil, List.append_nil,
        dropLineComments_cons (by simp), dropLineComments_cons (by simp),
        dropBlockComments_unclosed (noClose_dropLineComments noClose)]

/-- The removals take from the segments before a point what they take from each alone, and go on
as if they began there, as long as none of the segments loses its end. -/
theorem stripped_eq_append {query : List Char} {ps qs : List Segment}
    (h : segments query = ps ++ qs) (keepEnds : ∀ p ∈ ps, ¬ p.LosesEnd) :
    ∃ rest, segments rest = qs ∧ stripped query = ps.flatMap Segment.kept ++ stripped rest := by
  induction ps generalizing query with
  | nil => exact ⟨query, h, rfl⟩
  | cons p ps ih =>
      obtain ⟨tail, rfl, fits, later⟩ := segments_eq_cons h
      obtain ⟨rest, last, left⟩ := ih later fun q hq => keepEnds q (List.mem_cons_of_mem p hq)
      refine ⟨rest, last, ?_⟩
      rw [stripped_source_append fits (keepEnds p List.mem_cons_self), left, List.flatMap_cons,
        List.append_assoc]

end QueryGuard.Query
