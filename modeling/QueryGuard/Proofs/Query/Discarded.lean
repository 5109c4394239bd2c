import QueryGuard.Proofs.Query.Acceptance
import QueryGuard.Proofs.Query.Cut
import QueryGuard.Proofs.Query.SpanShape
import QueryGuard.Proofs.Query.Token

/-!
# QueryGuard.Proofs.Query.Discarded

What the cleaning of an accepted query discards.

The cleaned copy lacks the comments of a query, so nothing in them is seen by the rules that look at
the copy.  Two shapes are sought in the query itself to make up for that, and they suffice
(`not_holds_of_discarded`): no comment that is discarded holds a write verb, not even within another
word.

A block comment is discarded from the query without its line comments, so its text may be shorter
than the piece of the query in its place, its `SpanIn` the query.  The two have the same marks, and
each line of the one is a piece of the other.
-/

namespace QueryGuard.Query

open Text Pattern

/-! ## verbs in a text -/

/-- The letters of a word stand in a text in any letter case, be it within another word. -/
def Holds (word : String) (s : List Char) : Prop := ∃ k, FoldEq k word.toList ∧ k <:+: s

/-- A text holds a word exactly if the folded word stands in the folded text. -/
theorem holds_iff_infix_fold {word : String} {s : List Char} :
    Holds word s ↔ word.toList.map fold <:+: s.map fold := by
  constructor
  · intro h
    obtain ⟨k, spelled, piece⟩ := h
    rw [← spelled]
    exact piece.map fold
  · intro h
    obtain ⟨a, b, parts⟩ := h
    obtain ⟨_, back, rfl, hfront, -⟩ := List.map_eq_append_iff.mp parts.symm
    obtain ⟨front, k, rfl, -, spelled⟩ := List.map_eq_append_iff.mp hfront
    exact ⟨k, spelled, front, back, rfl⟩

instance (word : String) (s : List Char) : Decidable (Holds word s) :=
  decidable_of_iff (contains (word.toList.map fold) (s.map fold) = true)
    (contains_iff.trans holds_iff_infix_fold.symm)

theorem isName_of_write : ∀ verb ∈ writeVerbs, IsName verb := by decide

variable {word verb : String} {query : List Char}

/-- A character of no name parts a text into one before and one after it. -/
theorem holds_append_cons (name : IsName word) {b : Char} (other : isIdentifier b = false)
    {s t : List Char} (h : Holds word (s ++ b :: t)) : Holds word s ∨ Holds word t := by
  obtain ⟨k, spelled, a, c, whole⟩ := h
  have notIn : b ∉ k := by
    intro hb
    rw [isIdentifier_of_foldEq name spelled b hb] at other
    contradiction
  obtain ⟨c', rfl, -⟩ | ⟨a', -, rfl⟩ := piece_of_append_cons whole.symm notIn
  · exact .inl ⟨k, spelled, a, c', rfl⟩
  · exact .inr ⟨k, spelled, a', c, rfl⟩

/-- An empty text holds no word. -/
theorem not_holds_nil (name : IsName word) : ¬ Holds word [] := by
  intro h
  obtain ⟨k, spelled, empty⟩ := h
  exact ne_nil_of_foldEq name spelled (List.infix_nil.mp empty)

/-- A character of no name at the start of a text is no part of a word in it. -/
theorem holds_of_holds_cons (name : IsName word) {b : Char} (other : isIdentifier b = false)
    {t : List Char} (h : Holds word (b :: t)) : Holds word t :=
  (holds_append_cons (s := []) name other h).resolve_left (not_holds_nil name)

/-! ## the shapes of comments -/

/-- A verb that writes in the line behind two hyphens has the shape of a line comment. -/
theorem hasShape_of_line {a body b : List Char} (sameLine : '\n' ∉ body) (write : verb ∈ writeVerbs)
    (holds : Holds verb body) :
    hasShape .lineCommentKeyword (a ++ '-' :: '-' :: body ++ b) = true := by
  obtain ⟨k, spelled, front, back, rfl⟩ := holds
  rw [hasShape_lineCommentKeyword_iff]
  have isWrite : IsWriteVerb k := ⟨verb, write, isCaseForm_iff_foldEq.mpr spelled⟩
  exact ⟨a, front, k, back ++ b, by simp, fun h => sameLine (by simp [h]), isWrite⟩

/-- A verb that writes between two marks has the shape of a block comment. -/
theorem hasShape_of_block {a body b : List Char} (write : verb ∈ writeVerbs)
    (holds : Holds verb body) :
    hasShape .blockCommentKeyword (a ++ '/' :: '*' :: body ++ '*' :: '/' :: b) = true := by
  obtain ⟨k, spelled, front, back, rfl⟩ := holds
  rw [hasShape_blockCommentKeyword_iff]
  have isWrite : IsWriteVerb k := ⟨verb, write, isCaseForm_iff_foldEq.mpr spelled⟩
  exact ⟨a, front, k, back, b, by simp, isWrite⟩

/-! ## where a block comment stands -/

/-- Where a block comment of a query without its line comments stands behind `before` and has `body`
between its marks, the query has `span` between them. -/
def SpanIn (query before body span : List Char) : Prop :=
  ∃ ps inner qs, lineCuts query =
      ps ++ .stays '/' :: .stays '*' :: inner ++ .stays '*' :: .stays '/' :: qs ∧
    ps.flatMap Cut.left = before ∧ inner.flatMap Cut.left = body ∧
    inner.flatMap Cut.source = span

/-- A block comment has its place in the query. -/
theorem exists_spanIn {before body after : List Char}
    (h : dropLineComments query = before ++ '/' :: '*' :: (body ++ '*' :: '/' :: after)) :
    ∃ span, SpanIn query before body span := by
  have chain := isChain_lineCuts query
  rw [← flatMap_left_lineCuts] at h
  obtain ⟨ps, cuts, split, left, marked⟩ := eq_append_of_left h
  rw [split] at chain
  obtain ⟨cuts, rfl, opened⟩ := eq_cons_of_left chain.right_of_append.tail marked (by decide)
  obtain ⟨inner, cuts, rfl, text, closing⟩ := eq_append_of_left opened
  have closingChain := chain.right_of_append.tail.tail.right_of_append.tail
  obtain ⟨qs, rfl, -⟩ := eq_cons_of_left closingChain closing (by decide)
  exact ⟨_, ps, inner, qs, by rw [split]; simp, left, text, rfl⟩

/-- What a block comment holds, the query holds in its place. -/
theorem SpanIn.holds {before body span : List Char} (h : SpanIn query before body span)
    (name : IsName word) (holds : Holds word body) : Holds word span := by
  obtain ⟨ps, inner, qs, split, -, rfl, rfl⟩ := h
  obtain ⟨k, spelled, piece⟩ := holds
  have chain := isChain_lineCuts query
  rw [split] at chain
  have sameLine : '\n' ∉ k := by
    intro newline
    have letter := isIdentifier_of_foldEq name spelled '\n' newline
    revert letter
    decide
  exact ⟨k, spelled, infix_source_of_infix_left
    chain.left_of_append.right_of_append.tail.tail sameLine piece⟩

/-- The query has the shape of a write verb in a block comment if it holds one there. -/
theorem SpanIn.hasShape {before body span : List Char} (h : SpanIn query before body span)
    (write : verb ∈ writeVerbs) (holds : Holds verb span) :
    hasShape .blockCommentKeyword query = true := by
  obtain ⟨ps, inner, qs, split, -, -, rfl⟩ := h
  have text := flatMap_source_lineCuts query
  rw [split] at text
  have parts := hasShape_of_block (a := ps.flatMap Cut.source) (b := qs.flatMap Cut.source) write
    holds
  simp only [List.flatMap_append, List.flatMap_cons, Cut.source] at text
  rw [← text]
  simpa using parts

/-! ## accepted queries -/

/-- A line comment that the query discards gives it the shape of one. -/
theorem hasShape_of_goes {comment : List Char} (goes : .goes comment ∈ lineCuts query)
    (write : verb ∈ writeVerbs) (holds : Holds verb comment) :
    hasShape .lineCommentKeyword query = true := by
  have name := isName_of_write verb write
  obtain ⟨body, rfl, sameLine⟩ := eq_dashes_of_goes goes
  have inBody := holds_of_holds_cons name (by decide) (holds_of_holds_cons name (by decide) holds)
  obtain ⟨ps, qs, split⟩ := List.append_of_mem goes
  have text := flatMap_source_lineCuts query
  rw [split, List.flatMap_append, List.flatMap_cons, Cut.source, ← List.append_assoc] at text
  rw [← text]
  exact hasShape_of_line sameLine write inBody

/-- **No comment that the cleaning of an accepted query discards holds a write verb**: neither a
line comment of the query, nor a block comment of the query without its line comments, nor the piece
of the query in the place of that block comment. -/
theorem not_holds_of_discarded (accepted : judge query = .accepted) (write : verb ∈ writeVerbs) :
    (∀ comment, .goes comment ∈ lineCuts query → ¬ Holds verb comment) ∧
      ∀ before comment after,
        blockCuts (dropLineComments query) = before ++ .goes comment :: after →
        ¬ Holds verb comment ∧
          ∃ body, comment = '/' :: '*' :: (body ++ ['*', '/']) ∧
            (∃ span, SpanIn query (before.flatMap Cut.source) body span) ∧
            ∀ span, SpanIn query (before.flatMap Cut.source) body span →
              ¬ Holds verb ('/' :: '*' :: (span ++ ['*', '/'])) := by
  have name := isName_of_write verb write
  have noShape : ∀ shape, ¬ hasShape shape query = true := by
    intro shape
    rw [Bool.not_eq_true]
    exact (judge_eq_accepted_iff.mp accepted).noShape shape shape.mem_all
  refine ⟨fun comment goes holds => noShape _ (hasShape_of_goes goes write holds), ?_⟩
  intro before comment after split
  have goes : .goes comment ∈ blockCuts (dropLineComments query) := by
    rw [split]
    exact List.mem_append_right before List.mem_cons_self
  obtain ⟨body, rfl, -⟩ := eq_marks_of_goes goes
  have text := flatMap_source_blockCuts (dropLineComments query)
  simp only [split, List.flatMap_append, List.flatMap_cons, Cut.source, List.cons_append,
    List.append_assoc, List.nil_append] at text
  obtain ⟨span, place⟩ := exists_spanIn text.symm
  have unmarked : ∀ s, Holds verb ('/' :: '*' :: (s ++ ['*', '/'])) → Holds verb s := by
    intro s holds
    have open_ := holds_of_holds_cons name (by decide) (holds_of_holds_cons name (by decide) holds)
    obtain inside | behind := holds_append_cons name (by decide) open_
    · exact inside
    · exact absurd (holds_of_holds_cons name (by decide) behind) (not_holds_nil name)
  refine ⟨?_, body, rfl, ⟨span, place⟩, ?_⟩
  · intro holds
    exact noShape _ (place.hasShape write (place.holds name (unmarked body holds)))
  · intro span place holds
    exact noShape _ (place.hasShape write (unmarked span holds))

/-- A query with a line comment inside a block comment and one after it. -/
theorem not_holds_of_discarded_nested :
    let query := "SELECT x /* one -- two\nthree */ -- four".toList
    judge query = .accepted ∧ "DROP" ∈ writeVerbs ∧
      (.goes "-- two".toList ∈ lineCuts query ∧ ¬ Holds "DROP" "-- two".toList) ∧
      (∃ before after, blockCuts (dropLineComments query) =
          before ++ .goes "/* one \nthree */".toList :: after ∧
        ¬ Holds "DROP" "/* one \nthree */".toList) := by
  intro query
  have accepted : judge query = .accepted := by decide +kernel
  have write : "DROP" ∈ writeVerbs := by decide
  have line : .goes "-- two".toList ∈ lineCuts query := by decide +kernel
  have block : blockCuts (dropLineComments query) = "SELECT x ".toList.map .stays ++
      .goes "/* one \nthree */".toList :: " ".toList.map .stays := by decide +kernel
  obtain ⟨lines, blocks⟩ := not_holds_of_discarded accepted write
  exact ⟨accepted, write, ⟨line, lines _ line⟩, _, _, block, (blocks _ _ _ block).1⟩

end QueryGuard.Query
