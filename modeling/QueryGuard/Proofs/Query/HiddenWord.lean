import QueryGuard.Proofs.Query.Acceptance
import QueryGuard.Proofs.Query.EngineText
import QueryGuard.Proofs.Query.Remainder

/-!
# QueryGuard.Proofs.Query.HiddenWord

Denied words that the engine reads as tokens of an accepted query.

The gate looks for the denied words in a copy without comments, the engine reads each comment as a
space.  A word that is a token for the engine is missed exactly where it is *hidden*:

* beside an identifier from which only block comments part it, since the removal joins the two
  (with no comment between, this is one of the four characters outside ASCII that the gate counts
  among the identifier characters and the engine's tokens do not);
* behind a block comment that loses its end, or directly before one.

`isToken_engineText_iff` states this, and `denied_word_behind_comment` shows that it happens.
-/

namespace QueryGuard.Query

open Text

/-! ## hidden places -/

/-- A place between two segments of a query at which the gate may overlook a word. -/
inductive Hides (ps qs : List Segment) : Prop
  /-- Only block comments part the place from an identifier before it. -/
  | joinedBefore {before blocks : List Segment} {c : Char}
      (split : ps = before ++ .char c :: blocks)
      (onlyBlocks : ∀ p ∈ blocks, p.isBlock = true) (joins : isIdentifier c = true)
  /-- Only block comments part the place from an identifier after it. -/
  | joinedAfter {blocks after : List Segment} {c : Char} (split : qs = blocks ++ .char c :: after)
      (onlyBlocks : ∀ p ∈ blocks, p.isBlock = true) (joins : isIdentifier c = true)
  /-- A block comment before the place loses its end. -/
  | lostBefore {p : Segment} (mem : p ∈ ps) (lost : p.LosesEnd)
  /-- A block comment directly after the place, or after other block comments, loses its end. -/
  | lostAfter {p : Segment} (mem : p ∈ qs.takeWhile Segment.isBlock) (lost : p.LosesEnd)

/-- A token of the engine at a place where the gate may overlook it. -/
def HiddenToken (word : String) (query : List Char) : Prop :=
  ∃ ps k qs, segments query = ps ++ k.map .char ++ qs ∧ Spells word k ∧
    asciiJoins (ps.map Segment.shown).getLast? = false ∧
    asciiJoins (qs.map Segment.shown).head? = false ∧ Hides ps qs

/-! ## the copy around a place -/

/-- If no block comment loses its end before a word or right after it, the copy holds the word, with
what the removals leave on its two sides. -/
theorem stripped_of_word {query k : List Char} {ps qs : List Segment}
    (split : segments query = ps ++ k.map .char ++ qs) (before : ∀ p ∈ ps, ¬ p.LosesEnd)
    (after : ∀ p ∈ qs.takeWhile Segment.isBlock, ¬ p.LosesEnd) :
    ∃ rest, segments rest = qs.dropWhile Segment.isBlock ∧
      stripped query = ps.flatMap Segment.kept ++ k ++ stripped rest := by
  have parts : segments query =
      (ps ++ k.map .char ++ qs.takeWhile Segment.isBlock) ++ qs.dropWhile Segment.isBlock := by
    rw [List.append_assoc, List.takeWhile_append_dropWhile, split]
  have keepEnds : ∀ p ∈ ps ++ k.map .char ++ qs.takeWhile Segment.isBlock, ¬ p.LosesEnd := by
    intro p hp lost
    simp only [List.mem_append, List.mem_map] at hp
    obtain (hp | ⟨c, _, rfl⟩) | hp := hp
    · exact before p hp lost
    · exact lost
    · exact after p hp lost
  obtain ⟨rest, later, left⟩ := stripped_eq_append parts keepEnds
  have blocks : (qs.takeWhile Segment.isBlock).flatMap Segment.kept = [] :=
    flatMap_kept_of_isBlock fun p hp => List.all_eq_true.mp List.all_takeWhile p hp
  refine ⟨rest, later, ?_⟩
  rw [left, List.flatMap_append, List.flatMap_append, flatMap_kept_map_char, blocks,
    List.append_nil]

/-- An identifier that the removals leave right before a name. -/
theorem hides_of_joins_kept {query k : List Char} {ps qs : List Segment}
    (split : segments query = ps ++ k.map .char ++ qs) (full : k ≠ [])
    (name : ∀ c ∈ k, isIdentifier c = true)
    (front : joins (ps.flatMap Segment.kept).getLast? = true) : Hides ps qs := by
  obtain ⟨c, k, rfl⟩ := List.exists_cons_of_ne_nil full
  have sameLine : ((c :: k).map Segment.char ++ qs).head? ≠ some (.char '\n') := by
    intro newline
    have letter := name c List.mem_cons_self
    simp only [List.map_cons, List.cons_append, List.head?_cons, Option.some.injEq,
      Segment.char.injEq] at newline
    rw [newline] at letter
    contradiction
  rw [List.append_assoc] at split
  obtain ⟨before, d, blocks, hps, onlyBlocks, joined⟩ :=
    eq_append_of_joins_kept split (by simp) sameLine front
  exact .joinedBefore hps onlyBlocks joined

/-- An identifier that the removals leave right after a name. -/
theorem hides_of_joins_stripped {rest : List Char} {ps qs : List Segment}
    (later : segments rest = qs.dropWhile Segment.isBlock)
    (behind : joins (stripped rest).head? = true) : Hides ps qs := by
  have notBlock : ∀ p, (qs.dropWhile Segment.isBlock).head? = some p → p.isBlock = false := by
    intro p hp
    simpa [hp] using List.head?_dropWhile_not Segment.isBlock qs
  obtain ⟨c, after, hqs, joined⟩ := eq_cons_of_joins_stripped later notBlock behind
  have parted : qs = qs.takeWhile Segment.isBlock ++ .char c :: after := by
    rw [← hqs, List.takeWhile_append_dropWhile]
  exact .joinedAfter parted (fun p hp => List.all_eq_true.mp List.all_takeWhile p hp) joined

/-- A name that stands outside of all comments and is no token of the copy is hidden. -/
theorem hides_of_missed {query k : List Char} {word : String} {ps qs : List Segment}
    (name : IsName word) (spelled : FoldEq k word.toList)
    (split : segments query = ps ++ k.map .char ++ qs)
    (missed : hasKeyword word (stripped query) = false) : Hides ps qs := by
  by_cases lost : ∃ p ∈ ps, p.LosesEnd
  · obtain ⟨p, hp, lost⟩ := lost
    exact .lostBefore hp lost
  by_cases lostNext : ∃ p ∈ qs.takeWhile Segment.isBlock, p.LosesEnd
  · obtain ⟨p, hp, lost⟩ := lostNext
    exact .lostAfter hp lost
  obtain ⟨rest, later, copy⟩ := stripped_of_word split (fun p hp loses => lost ⟨p, hp, loses⟩)
    fun p hp loses => lostNext ⟨p, hp, loses⟩
  by_cases front : joins (ps.flatMap Segment.kept).getLast? = true
  · exact hides_of_joins_kept split (ne_nil_of_foldEq name spelled)
      (isIdentifier_of_foldEq name spelled) front
  by_cases behind : joins (stripped rest).head? = true
  · exact hides_of_joins_stripped later behind
  · have found : hasKeyword word (stripped query) = true :=
      hasKeyword_iff.mpr ⟨_, k, _, copy, spelled, by simpa using front, by simpa using behind⟩
    rw [missed] at found
    contradiction

/-! ## the exact condition -/

/-- **A denied word is a token of an accepted query, as the engine reads it, exactly where it is
hidden from the gate.** -/
theorem isToken_engineText_iff {query : List Char} {word : String}
    (accepted : judge query = .accepted) (denied : word ∈ deniedKeywords) :
    IsToken word (engineText query) ↔ HiddenToken word query := by
  have name := isName_of_denied word denied
  constructor
  · intro h
    obtain ⟨a, k, b, hs, spelled, free, stop⟩ := h
    have folded := foldEq_of_spells spelled
    obtain ⟨ps, qs, split, rfl, rfl⟩ := engineText_eq_append hs (space_notMem name folded)
    have missed : hasKeyword word (stripped query) = false := by
      rw [← hasKeyword_squeeze name, ← clean_eq_squeeze_stripped]
      exact (judge_eq_accepted_iff.mp accepted).noKeyword word denied
    exact ⟨ps, k, qs, split, spelled, free, stop, hides_of_missed name folded split missed⟩
  · intro h
    obtain ⟨ps, k, qs, split, spelled, free, stop, _⟩ := h
    refine ⟨ps.map Segment.shown, k, qs.map Segment.shown, ?_, spelled, free, stop⟩
    rw [engineText, split, List.map_append, List.map_append, map_shown_map_char]

theorem judge_joined_drop : judge "SELECT 1/**/DROP TABLE t".toList = .accepted := by
  decide +kernel

theorem engineText_joined_drop : engineText "SELECT 1/**/DROP TABLE t".toList =
    "SELECT 1 ".toList ++ "DROP".toList ++ " TABLE t".toList := by
  decide +kernel

/-- A denied word behind a comment is hidden from the rules. -/
theorem hiddenToken_behind_comment :
    judge "SELECT 1/**/DROP TABLE t".toList = .accepted ∧ "DROP" ∈ deniedKeywords ∧
      HiddenToken "DROP" "SELECT 1/**/DROP TABLE t".toList := by
  have denied : "DROP" ∈ deniedKeywords := by decide
  exact ⟨judge_joined_drop, denied, (isToken_engineText_iff judge_joined_drop denied).mp
    ⟨_, _, _, engineText_joined_drop, rfl, by decide, by decide⟩⟩

/-- An accepted query without quotes may hold a denied word that the engine reads as a token. -/
theorem denied_word_behind_comment :
    ¬ ∀ query, QuoteFree query → judge query = .accepted →
      ∀ word ∈ deniedKeywords, ¬ IsToken word (engineText query) := by
  intro h
  have quoteFree : QuoteFree "SELECT 1/**/DROP TABLE t".toList := by decide
  exact h _ quoteFree judge_joined_drop "DROP" (by decide)
    ⟨_, _, _, engineText_joined_drop, rfl, by decide, by decide⟩

end QueryGuard.Query
