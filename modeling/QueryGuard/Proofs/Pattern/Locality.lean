import QueryGuard.Proofs.Pattern.Composite
import QueryGuard.Proofs.Text.CaseForms
import QueryGuard.Proofs.Text.Pieces

/-!
# QueryGuard.Proofs.Pattern.Locality

Where in a text a pattern may be found, told by the classes of characters that it is made of.

* `not_occursIn_of_notMem` — a pattern that *needs* a character is found only in a text with that
  character;
* `occursIn_append_cons` — a character that a pattern *ignores* parts the text: the pattern is found
  before it or behind it, if at all.
-/

namespace QueryGuard.Pattern

open Text

variable {p : Pattern} {before piece after s t : List Char} {b x : Char}

/-! ## characters that a pattern needs -/

/-- Whether every piece that a pattern describes has a given character of it written out. -/
def needs (x : Char) : Pattern → Bool
  | .never => true
  | .one (.letter c) => c == x
  | .seq p q => needs x p || needs x q
  | .alt p q => needs x p && needs x q
  | .one _ | .empty | .many _ | .unlessAfter _ | .unlessBefore _ | .edge => false

/-- A piece of a pattern that needs a mark holds it. -/
theorem mem_of_matches (mark : NoLetter x) (need : p.needs x = true)
    (h : Matches p before piece after) : x ∈ piece := by
  induction h with
  | @one k c _ _ has =>
      cases k with
      | letter d =>
          have written : d = x := beq_iff_eq.mp need
          have same : fold d = fold c := beq_iff_eq.mp has
          rw [written, fold_of_noLetter mark, eq_comm, fold_eq_iff mark] at same
          exact List.mem_singleton.mpr same.symm
      | blank | word | identifier | notNewline | any => cases need
  | seq _ _ ihFirst ihSecond =>
      obtain first | second := Bool.or_eq_true_iff.mp need
      · exact List.mem_append_left _ (ihFirst first)
      · exact List.mem_append_right _ (ihSecond second)
  | left _ ih => exact ih (Bool.and_eq_true_iff.mp need).1
  | right _ ih => exact ih (Bool.and_eq_true_iff.mp need).2
  | empty | done | more _ _ | unlessAfter _ | unlessBefore _ | edge _ => cases need

/-- A pattern is not found in a text without a mark that it needs. -/
theorem not_occursIn_of_notMem (mark : NoLetter x) (need : p.needs x = true) (absent : x ∉ s) :
    p.occursIn s = false := by
  rw [Bool.eq_false_iff]
  intro found
  obtain ⟨before, piece, after, rfl, here⟩ := occursIn_iff.mp found
  exact absent (by simp [mem_of_matches mark need here])

/-! ## characters that a pattern ignores -/

/-- Whether a character is in none of the classes that a pattern looks at. -/
def ignores (b : Char) : Pattern → Bool
  | .never | .empty => true
  | .one k | .unlessAfter k | .unlessBefore k => !k.has b
  | .seq p q | .alt p q => ignores b p && ignores b q
  | .many p => ignores b p
  | .edge => !isWord b

/-- Patterns in a row have no match across a character if none of them has. -/
theorem ignores_inRow (ps : List Pattern) : (inRow ps).ignores b = ps.all (ignores b) := by
  induction ps with
  | nil => rfl
  | cons p ps ih =>
      cases ps with
      | nil => simp [inRow]
      | cons q qs =>
          rw [List.all_cons, ← ih]
          rfl

/-- A fixed text ignores the characters that have another fold than each of its own. -/
theorem ignores_text {word : String} (h : ∀ c ∈ word.toList, fold c ≠ fold b) :
    (text word).ignores b = true := by
  rw [text, ignores_inRow, List.all_map, List.all_eq_true]
  intro c hc
  simpa [ignores, CharClass.has] using h c hc

/-- An ignored character is in no piece that the pattern describes. -/
theorem notMem_of_matches (ignored : p.ignores b = true) (h : Matches p before piece after) :
    b ∉ piece := by
  induction h with
  | one has =>
      rw [List.mem_singleton]
      rintro rfl
      rw [ignores, has] at ignored
      contradiction
  | seq _ _ ihFirst ihSecond =>
      obtain ⟨first, second⟩ := Bool.and_eq_true_iff.mp ignored
      exact List.not_mem_append (ihFirst first) (ihSecond second)
  | left _ ih => exact ih (Bool.and_eq_true_iff.mp ignored).1
  | right _ ih => exact ih (Bool.and_eq_true_iff.mp ignored).2
  | more _ _ ihFirst ihRest => exact List.not_mem_append (ihFirst ignored) (ihRest ignored)
  | empty | done | unlessAfter _ | unlessBefore _ | edge _ => exact List.not_mem_nil

/-- Two sides of a position that are the same, or where there is nothing but `b` or the end of the
text. -/
def SameSide (b : Char) (c? d? : Option Char) : Prop :=
  c? = d? ∨ (∀ c ∈ c?, c = b) ∧ ∀ d ∈ d?, d = b

/-- A class without the character holds the same on the same side of it. -/
theorem hasAt_eq_of_sameSide {k : CharClass} (other : k.has b = false) {c? d? : Option Char}
    (same : SameSide b c? d?) : k.hasAt c? = k.hasAt d? := by
  have outside : ∀ e? : Option Char, (∀ e ∈ e?, e = b) → k.hasAt e? = false := by
    intro e? h
    cases e? with
    | none => rfl
    | some e => rw [h e rfl, CharClass.hasAt, other]
  obtain rfl | ⟨hc, hd⟩ := same
  · rfl
  · rw [outside c? hc, outside d? hd]

theorem sameSide_getLast?_append {before' : List Char}
    (same : SameSide b before.getLast? before'.getLast?) (m : List Char) :
    SameSide b (before ++ m).getLast? (before' ++ m).getLast? := by
  cases hm : m.getLast? with
  | none => simpa [List.getLast?_append, hm] using same
  | some c => exact .inl (by simp [List.getLast?_append, hm])

theorem sameSide_head?_append {after' : List Char} (same : SameSide b after.head? after'.head?)
    (n : List Char) : SameSide b (n ++ after).head? (n ++ after').head? := by
  cases n with
  | nil => exact same
  | cons c n => exact .inl rfl

/-- What a pattern describes does not turn on an ignored character beside the piece. -/
theorem Matches.of_sameSide {before' after' : List Char} (h : Matches p before piece after)
    (ignored : p.ignores b = true) (left : SameSide b before.getLast? before'.getLast?)
    (right : SameSide b after.head? after'.head?) : Matches p before' piece after' := by
  induction h generalizing before' after' with
  | empty => exact .empty
  | one has => exact .one has
  | seq _ _ ihFirst ihSecond =>
      obtain ⟨first, second⟩ := Bool.and_eq_true_iff.mp ignored
      exact .seq (ihFirst first left (sameSide_head?_append right _))
        (ihSecond second (sameSide_getLast?_append left _) right)
  | left _ ih => exact .left (ih (Bool.and_eq_true_iff.mp ignored).1 left right)
  | right _ ih => exact .right (ih (Bool.and_eq_true_iff.mp ignored).2 left right)
  | done => exact .done
  | more _ _ ihFirst ihRest =>
      exact .more (ihFirst ignored left (sameSide_head?_append right _))
        (ihRest ignored (sameSide_getLast?_append left _) right)
  | unlessAfter hasNot =>
      rw [hasAt_eq_of_sameSide (Bool.not_eq_true' _ ▸ ignored) left] at hasNot
      exact .unlessAfter hasNot
  | unlessBefore hasNot =>
      rw [hasAt_eq_of_sameSide (Bool.not_eq_true' _ ▸ ignored) right] at hasNot
      exact .unlessBefore hasNot
  | edge differ =>
      have other : CharClass.word.has b = false := Bool.not_eq_true' _ ▸ ignored
      rw [hasAt_eq_of_sameSide other left, hasAt_eq_of_sameSide other right] at differ
      exact .edge differ

/-- An ignored character beside a text is as good as the end of the text. -/
theorem sameSide_head?_cons (s t : List Char) : SameSide b (s ++ b :: t).head? s.head? := by
  cases s with
  | nil => exact .inr (by simp)
  | cons c s => exact .inl rfl

theorem sameSide_getLast?_cons (s t : List Char) :
    SameSide b (s ++ b :: t).getLast? t.getLast? := by
  cases h : t.getLast? with
  | none => exact .inr (by simp [List.getLast?_append, List.getLast?_cons, h])
  | some c => exact .inl (by simp [List.getLast?_append, List.getLast?_cons, h])

theorem SameSide.symm {c? d? : Option Char} (same : SameSide b c? d?) : SameSide b d? c? :=
  same.imp Eq.symm And.symm

/-- **An ignored character parts the text**: a pattern is found in one of the two parts or not at
all. -/
theorem occursIn_append_cons (ignored : p.ignores b = true) :
    p.occursIn (s ++ b :: t) = true ↔ p.occursIn s = true ∨ p.occursIn t = true := by
  simp only [occursIn_iff]
  constructor
  · intro found
    obtain ⟨before, piece, after, parts, here⟩ := found
    obtain ⟨after', rfl, rfl⟩ | ⟨before', rfl, rfl⟩ :=
      piece_of_append_cons parts (notMem_of_matches ignored here)
    · have inFront := here.of_sameSide ignored (.inl rfl) (sameSide_head?_cons after' t)
      exact .inl ⟨before, piece, after', rfl, inFront⟩
    · have behind := here.of_sameSide ignored (sameSide_getLast?_cons s before') (.inl rfl)
      exact .inr ⟨before', piece, after, rfl, behind⟩
  · intro found
    obtain ⟨before, piece, after, rfl, here⟩ | ⟨before, piece, after, rfl, here⟩ := found
    · have inFront := here.of_sameSide ignored (.inl rfl) (sameSide_head?_cons after t).symm
      exact ⟨before, piece, after ++ b :: t, by simp, inFront⟩
    · have behind := here.of_sameSide ignored (sameSide_getLast?_cons s before).symm (.inl rfl)
      exact ⟨s ++ b :: before, piece, after, by simp, behind⟩

end QueryGuard.Pattern
