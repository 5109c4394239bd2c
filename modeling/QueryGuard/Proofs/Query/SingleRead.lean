import QueryGuard.Proofs.Query.Acceptance
import QueryGuard.Proofs.Query.EngineText
import QueryGuard.Proofs.Query.Remainder
import QueryGuard.Proofs.Query.Statement

/-!
# QueryGuard.Proofs.Query.SingleRead

When the engine reads an accepted query as one statement that begins with a reading verb.

The gate looks for both in a copy without comments.  The copy misleads it exactly

* about the beginning, where a comment parts the verb, where the verb is spelled with one of the
  four characters outside ASCII that fold to its letters, or where a block comment before the first
  text loses its end;
* about the number of statements, where a block comment that loses its end stands before the text
  of a second one.

`isSingleRead_engineText_iff` states this, and `second_statement_behind_comment` shows that it
happens.
-/

namespace QueryGuard.Query

open Text

/-! ## what the gate does not see -/

/-- Segments that begin with a reading verb in ASCII letters, with no ASCII letter, digit or
underscore after it. -/
def BeginsWithVerb (qs : List Segment) : Prop :=
  ∃ verb ∈ readingVerbs, ∃ k after, qs = k.map .char ++ after ∧ Spells verb k ∧
    asciiJoins (after.map Segment.shown).head? = false

/-- A beginning of the query that the gate takes for a reading verb and the engine does not. -/
inductive HiddenStart (query : List Char) : Prop
  /-- A block comment stands inside of the verb. -/
  | partedVerb {verb : String} {ps qs : List Segment} {front back body : List Char}
      (reading : verb ∈ readingVerbs)
      (split : segments query = ps ++ front.map .char ++ .block body :: qs)
      (blank : ∀ p ∈ ps, isBlank p.shown = true) (spelled : FoldEq (front ++ back) verb.toList)
      (begun : front ≠ []) (parted : back ≠ [])
  /-- The verb is not spelled in ASCII letters. -/
  | foreignVerb {verb : String} {ps qs : List Segment} {k : List Char}
      (reading : verb ∈ readingVerbs) (split : segments query = ps ++ k.map .char ++ qs)
      (blank : ∀ p ∈ ps, isBlank p.shown = true) (spelled : FoldEq k verb.toList)
      (foreign : ¬ Spells verb k)
  /-- A block comment before the first text loses its end, and the first text is no such verb. -/
  | lostEnd {ps qs : List Segment} {p : Segment} (split : segments query = ps ++ qs)
      (blank : ∀ p ∈ ps, isBlank p.shown = true)
      (first : ∀ p, qs.head? = some p → isBlank p.shown = false)
      (mem : p ∈ ps) (lost : p.LosesEnd) (other : ¬ BeginsWithVerb qs)

/-- A semicolon outside of comments, with text of a statement before it and after it, where a block
comment that loses its end stands before the latter. -/
def HiddenStatement (query : List Char) : Prop :=
  ∃ ps ms c qs, segments query = ps ++ .char ';' :: (ms ++ .char c :: qs) ∧
    (∃ d ∈ ps.map Segment.shown, inStatement d = true) ∧ inStatement c = true ∧
    ∃ p ∈ ps ++ ms, p.LosesEnd

/-! ## the beginning -/

/-- The engine's text without leading blanks begins at the first segment that it reads as text. -/
theorem trimStart_engineText {query : List Char} {ps qs : List Segment}
    (split : segments query = ps ++ qs) (blank : ∀ p ∈ ps, isBlank p.shown = true)
    (first : ∀ p, qs.head? = some p → isBlank p.shown = false) :
    trimStart (engineText query) = qs.map Segment.shown := by
  have blanks : ∀ c ∈ ps.map Segment.shown, isBlank c = true := by
    intro c hc
    obtain ⟨p, hp, rfl⟩ := List.mem_map.mp hc
    exact blank p hp
  rw [engineText, split, List.map_append, trimStart, List.dropWhile_append_of_pos blanks]
  cases qs with
  | nil => rfl
  | cons p qs => exact List.dropWhile_cons_of_neg (by simp [first p rfl])

/-- Behind its blanks the text of the engine begins with the first full characters. -/
theorem trimStart_engineText_of_text {query : List Char} {ps qs : List Segment} {k : List Char}
    (split : segments query = ps ++ k.map .char ++ qs)
    (blank : ∀ p ∈ ps, isBlank p.shown = true) (full : ∀ c ∈ k, isBlank c = false)
    (begun : k ≠ []) :
    trimStart (engineText query) = k ++ qs.map Segment.shown := by
  rw [List.append_assoc] at split
  have first : ∀ p, (k.map Segment.char ++ qs).head? = some p → isBlank p.shown = false := by
    intro p hp
    obtain ⟨c, k, rfl⟩ := List.exists_cons_of_ne_nil begun
    cases hp
    exact full c List.mem_cons_self
  rw [trimStart_engineText split blank first, List.map_append, map_shown_map_char]

/-- The text of the engine begins to read exactly if the first segments spell a verb that reads. -/
theorem beginsRead_engineText_iff {query : List Char} {ps qs : List Segment}
    (split : segments query = ps ++ qs) (blank : ∀ p ∈ ps, isBlank p.shown = true)
    (first : ∀ p, qs.head? = some p → isBlank p.shown = false) :
    BeginsRead (engineText query) ↔ BeginsWithVerb qs := by
  have text := trimStart_engineText split blank first
  constructor
  · intro read
    obtain ⟨verb, reading, k, b, hs, spells, stop⟩ := read
    have noSpace := space_notMem (isName_of_reading verb reading) (foldEq_of_spells spells)
    obtain ⟨after, hqs, rfl⟩ := eq_append_of_map_shown (text.symm.trans hs) noSpace
    exact ⟨verb, reading, k, after, hqs, spells, stop⟩
  · intro begins
    obtain ⟨verb, reading, k, after, rfl, spells, stop⟩ := begins
    refine ⟨verb, reading, k, after.map Segment.shown, ?_, spells, stop⟩
    rw [text, List.map_append, map_shown_map_char]

/-- A reading verb at the beginning of a read is spelled in ASCII letters. -/
theorem spells_of_beginsRead {verb : String} {s k t : List Char} (reading : verb ∈ readingVerbs)
    (spelled : FoldEq k verb.toList) (hs : trimStart s = k ++ t) (read : BeginsRead s) :
    Spells verb k := by
  obtain ⟨other, readingOther, v, b, hv, spells, _⟩ := read
  have folded := foldEq_of_spells spells
  obtain ⟨rfl, rfl, -⟩ := eq_of_append_eq reading readingOther spelled folded (hs.symm.trans hv)
  exact spells

/-- A part of a reading verb with a space after it begins no read. -/
theorem not_beginsRead_of_parted {verb : String} {s front back t : List Char}
    (reading : verb ∈ readingVerbs) (spelled : FoldEq (front ++ back) verb.toList)
    (parted : back ≠ []) (hs : trimStart s = front ++ ' ' :: t) : ¬ BeginsRead s := by
  intro read
  obtain ⟨other, readingOther, v, b, hv, spells, _⟩ := read
  have folded := foldEq_of_spells spells
  have noSpace := space_notMem (isName_of_reading other readingOther) folded
  obtain ⟨u, rfl, _⟩ | ⟨u, hu, _⟩ := piece_of_append_cons (a := []) (hs.symm.trans hv) noSpace
  · have inVerb : v <+: v ++ u ++ back := by
      rw [List.append_assoc]
      exact List.prefix_append v _
    obtain ⟨_, same⟩ := eq_of_prefix readingOther reading folded spelled inVerb
    have length := congrArg List.length same
    simp only [List.nil_append, List.length_append] at length
    exact parted (List.length_eq_zero_iff.mp (by omega))
  · simp at hu

/-- Blanks and comments before the first text do not matter for the leading verb, as long as none
of them loses its end. -/
theorem hasLeadingVerb_rest {query : List Char} {ps qs : List Segment}
    (split : segments query = ps ++ qs) (blank : ∀ p ∈ ps, isBlank p.shown = true)
    (keepEnds : ∀ p ∈ ps, ¬ p.LosesEnd)
    (verb : hasLeadingVerb (trimStart (stripped query)) = true) :
    ∃ rest, segments rest = qs ∧ hasLeadingVerb (trimStart (stripped rest)) = true := by
  induction ps generalizing query with
  | nil => exact ⟨query, split, verb⟩
  | cons p ps ih =>
      obtain ⟨tail, rfl, fits, later⟩ := segments_eq_cons split
      rw [stripped_source_append fits (keepEnds p List.mem_cons_self)] at verb
      have goOn := ih later (fun q hq => blank q (List.mem_cons_of_mem p hq))
        fun q hq => keepEnds q (List.mem_cons_of_mem p hq)
      cases p with
      | char c =>
          have front : trimStart ([c] ++ stripped tail) = trimStart (stripped tail) :=
            List.dropWhile_cons_of_pos (blank _ List.mem_cons_self)
          exact goOn (by rwa [Segment.kept, front] at verb)
      | line body => exact goOn verb
      | block body => exact goOn verb
      | unclosed body =>
          have slash : trimStart ('/' :: '*' :: dropLineComments body ++ stripped tail) =
              '/' :: '*' :: dropLineComments body ++ stripped tail :=
            List.dropWhile_cons_of_neg (by decide)
          rw [Segment.kept, slash, List.cons_append, not_hasLeadingVerb_cons (by decide)] at verb
          contradiction

/-- A segment that the engine reads as text begins what the removals leave. -/
theorem stripped_of_full {rest : List Char} {p : Segment} {qs : List Segment}
    (h : segments rest = p :: qs) (full : isBlank p.shown = false) :
    ∃ c tail, p = .char c ∧ stripped rest = c :: tail := by
  obtain ⟨tail, rfl, fits, _⟩ := segments_eq_cons h
  cases p with
  | char c => exact ⟨c, stripped tail, rfl, stripped_source_append fits fun lost => lost⟩
  | line _ | block _ | unclosed _ => simp [Segment.shown, isBlank_space] at full

theorem joins_stripped_of_asciiJoins {rest : List Char}
    (h : asciiJoins ((segments rest).map Segment.shown).head? = true) :
    joins (stripped rest).head? = true := by
  cases hr : segments rest with
  | nil => simp [hr, asciiJoins] at h
  | cons p qs =>
      rw [hr, List.map_cons, List.head?_cons] at h
      have name := isIdentifier_of_asciiJoins h
      have full : isBlank p.shown = false := by
        rw [Bool.eq_false_iff]
        intro blank
        rw [isIdentifier_of_isBlank blank] at name
        contradiction
      obtain ⟨c, tail, rfl, left⟩ := stripped_of_full hr full
      rw [left]
      exact name

/-- A hidden beginning of a query is no reading verb for the engine. -/
theorem not_beginsRead_of_hidden {query : List Char} (hidden : HiddenStart query) :
    ¬ BeginsRead (engineText query) := by
  cases hidden with
  | @partedVerb verb ps qs front back body reading split blank spelled begun parted =>
      have full := not_blank_of_foldEq (isName_of_reading verb reading) spelled
      have begins := trimStart_engineText_of_text split blank
        (fun c hc => full c (List.mem_append_left back hc)) begun
      exact not_beginsRead_of_parted reading spelled parted begins
  | @foreignVerb verb ps qs k reading split blank spelled foreign =>
      have name := isName_of_reading verb reading
      have begins := trimStart_engineText_of_text split blank (not_blank_of_foldEq name spelled)
        (ne_nil_of_foldEq name spelled)
      exact fun read => foreign (spells_of_beginsRead reading spelled begins read)
  | lostEnd split blank first _ _ other =>
      rwa [beginsRead_engineText_iff split blank first]

/-- Where the removals leave a reading verb at the beginning of the first text of a query, the
engine finds one there as well, or the verb is hidden. -/
theorem beginsRead_or_hidden {query rest : List Char} {ps qs : List Segment} {c : Char}
    (split : segments query = ps ++ segments rest) (blank : ∀ p ∈ ps, isBlank p.shown = true)
    (first : segments rest = .char c :: qs) (found : hasLeadingVerb (stripped rest) = true) :
    BeginsRead (engineText query) ∨ HiddenStart query := by
  obtain ⟨verb, reading, k, b, hs, spelled, stop⟩ := hasLeadingVerb_iff.mp found
  have name := isName_of_reading verb reading
  obtain ⟨after, hk, rfl⟩ | ⟨front, back, body, others, rfl, parted, hk⟩ :=
    segments_eq_of_stripped hs (isIdentifier_of_foldEq name spelled)
  · rw [hk, ← List.append_assoc] at split
    by_cases spells : Spells verb k
    · have begins := trimStart_engineText_of_text split blank (not_blank_of_foldEq name spelled)
        (ne_nil_of_foldEq name spelled)
      have ends : asciiJoins ((segments after).map Segment.shown).head? = false := by
        rw [Bool.eq_false_iff]
        intro goesOn
        rw [joins_stripped_of_asciiJoins goesOn] at stop
        contradiction
      exact .inl ⟨verb, reading, k, _, begins, spells, ends⟩
    · exact .inr (.foreignVerb reading split blank spelled spells)
  · have begun : front ≠ [] := by
      intro none
      rw [none, first] at hk
      simp at hk
    rw [hk, ← List.append_assoc] at split
    exact .inr (.partedVerb reading split blank spelled begun parted)

/-- **What the engine reads of an accepted query begins with a reading verb, unless the gate took
something else for one.** -/
theorem beginsRead_engineText_iff_not {query : List Char} (accepted : judge query = .accepted) :
    BeginsRead (engineText query) ↔ ¬ HiddenStart query := by
  refine ⟨fun read hidden => not_beginsRead_of_hidden hidden read, fun visible => ?_⟩
  let blankShown : Segment → Bool := fun p => isBlank p.shown
  have split : segments query =
      (segments query).takeWhile blankShown ++ (segments query).dropWhile blankShown :=
    List.takeWhile_append_dropWhile.symm
  have blank : ∀ p ∈ (segments query).takeWhile blankShown, isBlank p.shown = true :=
    fun p hp => List.all_eq_true.mp List.all_takeWhile p hp
  have first : ∀ p, ((segments query).dropWhile blankShown).head? = some p →
      isBlank p.shown = false := by
    intro p hp
    simpa [hp, blankShown] using List.head?_dropWhile_not blankShown (segments query)
  by_cases lost : ∃ p ∈ (segments query).takeWhile blankShown, p.LosesEnd
  · obtain ⟨p, hp, lost⟩ := lost
    rw [beginsRead_engineText_iff split blank first]
    exact Classical.not_not.mp fun other => visible (.lostEnd split blank first hp lost other)
  have found : hasLeadingVerb (trimStart (stripped query)) = true := by
    rw [← hasLeadingVerb_squeeze, ← clean_eq_squeeze_stripped]
    exact (judge_eq_accepted_iff.mp accepted).leadingVerb
  obtain ⟨rest, later, verb⟩ :=
    hasLeadingVerb_rest split blank (fun p hp losesEnd => lost ⟨p, hp, losesEnd⟩) found
  cases hq : (segments query).dropWhile blankShown with
  | nil =>
      rw [eq_nil_of_segments (later.trans hq), stripped_nil] at verb
      exact absurd verb (by decide)
  | cons p qs =>
      have full : isBlank p.shown = false := first p (by rw [hq]; rfl)
      obtain ⟨c, tail, rfl, left⟩ := stripped_of_full (later.trans hq) full
      have trimmed : trimStart (stripped rest) = stripped rest := by
        rw [left]
        exact List.dropWhile_cons_of_neg (Bool.eq_false_iff.mp full)
      rw [trimmed] at verb
      rw [← later] at split
      exact (beginsRead_or_hidden split blank (later.trans hq) verb).resolve_right visible

/-! ## the number of statements -/

theorem eq_char_of_inStatement {p : Segment} (h : inStatement p.shown = true) :
    p = .char p.shown := by
  have space : inStatement ' ' = false := by decide
  cases p with
  | char c => rfl
  | line _ | block _ | unclosed _ => simp [Segment.shown, space] at h

/-- Text of a statement outside of comments is left by the removals. -/
theorem exists_inStatement_kept {ps : List Segment}
    (h : ∃ c ∈ ps.map Segment.shown, inStatement c = true) :
    ∃ c ∈ ps.flatMap Segment.kept, inStatement c = true := by
  obtain ⟨c, hc, inside⟩ := h
  obtain ⟨p, hp, rfl⟩ := List.mem_map.mp hc
  refine ⟨p.shown, List.mem_flatMap.mpr ⟨p, hp, ?_⟩, inside⟩
  rw [eq_char_of_inStatement inside]
  exact List.mem_singleton_self _

theorem shown_eq_semicolon {p : Segment} (h : p.shown = ';') : p = .char ';' := by
  cases p with
  | char c => exact congrArg Segment.char h
  | line _ | block _ | unclosed _ => simp [Segment.shown] at h

/-- **The engine reads more than one statement in an accepted query exactly if a block comment that
loses its end hides one from the gate.** -/
theorem one_lt_length_statements_engineText_iff {query : List Char}
    (accepted : judge query = .accepted) :
    1 < (statements (engineText query)).length ↔ HiddenStatement query := by
  rw [one_lt_length_statements_iff]
  constructor
  · intro h
    obtain ⟨a, b, hs, before, d, hd, inside⟩ := h
    obtain ⟨ps, rest, split, rfl, hrest⟩ := List.map_eq_append_iff.mp hs
    obtain ⟨p, tail, rfl, semicolon, rfl⟩ := List.map_eq_cons_iff.mp hrest
    rw [shown_eq_semicolon semicolon] at split
    obtain ⟨q, hq, rfl⟩ := List.mem_map.mp hd
    obtain ⟨ms, qs, rfl⟩ := List.append_of_mem hq
    rw [eq_char_of_inStatement inside] at split
    refine ⟨ps, ms, q.shown, qs, split, before, inside, Classical.not_not.mp fun none => ?_⟩
    -- without a lost end the copy keeps all text up to the character after the semicolon
    have parts : segments query = (ps ++ .char ';' :: (ms ++ [.char q.shown])) ++ qs := by
      rw [split]
      simp
    have keepEnds : ∀ p ∈ ps ++ .char ';' :: (ms ++ [.char q.shown]), ¬ p.LosesEnd := by
      intro p hp lost
      simp only [List.mem_append, List.mem_cons, List.not_mem_nil, or_false] at hp
      obtain hp | rfl | hp | rfl := hp
      · exact none ⟨p, List.mem_append_left ms hp, lost⟩
      · exact lost
      · exact none ⟨p, List.mem_append_right ps hp, lost⟩
      · exact lost
    obtain ⟨rest, _, left⟩ := stripped_eq_append parts keepEnds
    have copy : stripped query = ps.flatMap Segment.kept ++
        ';' :: (ms.flatMap Segment.kept ++ q.shown :: stripped rest) := by
      rw [left]
      simp [Segment.kept]
    have many : 1 < (statements (stripped query)).length :=
      (one_lt_length_statements_iff _).mpr
        ⟨_, _, copy, exists_inStatement_kept before, q.shown, by simp, inside⟩
    have one := (judge_eq_accepted_iff.mp accepted).oneStatement
    rw [← one_lt_length_statements_squeeze, ← clean_eq_squeeze_stripped] at many
    omega
  · intro h
    obtain ⟨ps, ms, c, qs, split, before, inside, _⟩ := h
    refine ⟨ps.map Segment.shown, (ms ++ .char c :: qs).map Segment.shown, ?_, before, c, ?_,
      inside⟩
    · rw [engineText, split, List.map_append, List.map_cons]
      rfl
    · rw [List.map_append, List.map_cons]
      exact List.mem_append_right _ List.mem_cons_self

/-- A text that begins to read has a statement. -/
theorem statements_ne_nil_of_beginsRead {s : List Char} (read : BeginsRead s) :
    statements s ≠ [] := by
  obtain ⟨verb, reading, k, b, hs, spells, _⟩ := read
  have name := isName_of_reading verb reading
  have folded := foldEq_of_spells spells
  obtain ⟨c, k, rfl⟩ := List.exists_cons_of_ne_nil (ne_nil_of_foldEq name folded)
  have letter := isIdentifier_of_foldEq name folded c List.mem_cons_self
  have full := not_blank_of_foldEq name folded c List.mem_cons_self
  have noSemicolon : c ≠ ';' := by
    intro h
    rw [h] at letter
    contradiction
  rw [statements_ne_nil_iff]
  refine ⟨c, (List.dropWhile_suffix isBlank).subset ?_, by simp [inStatement, full, noSemicolon]⟩
  rw [trimStart] at hs
  simp [hs]

/-! ## the exact condition -/

/-- **The engine reads an accepted query as one statement that begins with a reading verb, unless
the gate took something else for the verb or a block comment hid a second statement from it.** -/
theorem isSingleRead_engineText_iff {query : List Char} (accepted : judge query = .accepted) :
    IsSingleRead (engineText query) ↔ ¬ HiddenStart query ∧ ¬ HiddenStatement query := by
  rw [← beginsRead_engineText_iff_not accepted,
    ← one_lt_length_statements_engineText_iff accepted, IsSingleRead]
  constructor
  · intro h
    exact ⟨h.1, by omega⟩
  · intro h
    have some := List.length_pos_iff.mpr (statements_ne_nil_of_beginsRead h.1)
    exact ⟨h.1, by omega⟩

theorem judge_hidden_vacuum : judge "SELECT 1 /* -- */ ; /**/ VACUUM".toList = .accepted := by
  decide +kernel

/-- To the engine the second statement is there. -/
theorem not_isSingleRead_hidden_vacuum :
    ¬ IsSingleRead (engineText "SELECT 1 /* -- */ ; /**/ VACUUM".toList) := by
  intro single
  have two : (statements (engineText "SELECT 1 /* -- */ ; /**/ VACUUM".toList)).length = 2 := by
    decide +kernel
  have one := single.2
  omega

/-- A statement behind comments is hidden from the rules. -/
theorem hiddenStatement_behind_comment :
    judge "SELECT 1 /* -- */ ; /**/ VACUUM".toList = .accepted ∧
      (HiddenStart "SELECT 1 /* -- */ ; /**/ VACUUM".toList ∨
        HiddenStatement "SELECT 1 /* -- */ ; /**/ VACUUM".toList) := by
  refine ⟨judge_hidden_vacuum, Classical.not_not.mp fun none => ?_⟩
  exact not_isSingleRead_hidden_vacuum
    ((isSingleRead_engineText_iff judge_hidden_vacuum).mpr (not_or.mp none))

/-- An accepted query without quotes may be two statements for the engine. -/
theorem second_statement_behind_comment :
    ¬ ∀ query, QuoteFree query → judge query = .accepted → IsSingleRead (engineText query) := by
  intro h
  have quoteFree : QuoteFree "SELECT 1 /* -- */ ; /**/ VACUUM".toList := by decide
  exact not_isSingleRead_hidden_vacuum (h _ quoteFree judge_hidden_vacuum)

end QueryGuard.Query
