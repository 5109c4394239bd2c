import QueryGuard.Proofs.Pattern.Language
import QueryGuard.Proofs.Query.Acceptance
import QueryGuard.Proofs.Query.Standing
import QueryGuard.Proofs.Query.Statement

/-!
# QueryGuard.Proofs.Query.Semicolon

What stands behind the semicolons of a query.

Two shapes look behind a semicolon of the query itself: one for any word character, one for the verb
of a write.  A third rule counts the statements of the cleaned copy.  Together they leave an
accepted query a single statement with nothing but semicolons and spaces behind it in the copy, and
no text behind any semicolon of the query (`single_body_of_accepted`).
-/

namespace QueryGuard.Query

open Text Pattern

variable {s query : List Char}

/-! ## the shapes behind a semicolon -/

/-- Behind some semicolon and any blanks stands a word character. -/
def GoesOn (s : List Char) : Prop :=
  ∃ a gap c b, s = a ++ ';' :: gap ++ c :: b ∧ (∀ d ∈ gap, isBlank d = true) ∧ isWord c = true

/-- Behind some semicolon and any blanks stands the verb of a write.  It may be the beginning of a
longer word. -/
def GoesOnWithVerb (s : List Char) : Prop :=
  ∃ a gap verb b, s = a ++ ';' :: gap ++ verb ++ b ∧ (∀ d ∈ gap, isBlank d = true) ∧
    ∃ word ∈ separatedVerbs, IsCaseForm word verb

theorem isMark_semicolon : IsMark ";" := by decide

theorem mem_language_word {piece : List Char} :
    piece ∈ (Pattern.one .word).language ↔ ∃ c, piece = [c] ∧ isWord c = true := Iff.rfl

/-- The shape is found exactly where the text goes on behind a semicolon. -/
theorem hasShape_multipleStatements_iff : hasShape .multipleStatements s = true ↔ GoesOn s := by
  rw [hasShape, Shape.pattern, occursIn_iff_mem_language (by decide)]
  simp only [mem_language_inRow_cons, mem_language_inRow_nil, mem_language_mark isMark_semicolon,
    mem_language_blanks, mem_language_word]
  constructor
  · intro h
    obtain ⟨a, _, b, rfl, _, _, rfl, rfl, gap, _, rfl, blank, _, _, rfl, ⟨c, rfl, word⟩, rfl⟩ := h
    exact ⟨a, gap, c, b, by simp, blank, word⟩
  · intro h
    obtain ⟨a, gap, c, b, rfl, blank, word⟩ := h
    exact ⟨a, ";".toList ++ (gap ++ ([c] ++ [])), b, by simp, _, _, rfl, rfl, gap, _, rfl, blank,
      [c], [], rfl, ⟨c, rfl, word⟩, rfl⟩

/-- The shape is found exactly where a semicolon comes before a verb that writes. -/
theorem hasShape_separatorKeyword_iff :
    hasShape .separatorKeyword s = true ↔ GoesOnWithVerb s := by
  rw [hasShape, Shape.pattern, occursIn_iff_mem_language (by decide)]
  simp only [mem_language_inRow_cons, mem_language_inRow_nil, mem_language_mark isMark_semicolon,
    mem_language_blanks, mem_language_oneOf]
  constructor
  · intro h
    obtain ⟨a, _, b, rfl, _, _, rfl, rfl, gap, _, rfl, blank, verb, _, rfl, write, rfl⟩ := h
    exact ⟨a, gap, verb, b, by simp, blank, write⟩
  · intro h
    obtain ⟨a, gap, verb, b, rfl, blank, write⟩ := h
    exact ⟨a, ";".toList ++ (gap ++ (verb ++ [])), b, by simp, _, _, rfl, rfl, gap, _, rfl, blank,
      verb, [], rfl, write, rfl⟩

/-! ## the statement of an accepted query -/

/-- A text is a single statement of a read: it begins with a reading verb and holds no semicolon. -/
def IsBody (body : List Char) : Prop := StartsWithVerb body ∧ ';' ∉ body

/-- Up to its first semicolon a text that begins with a reading verb is a statement. -/
theorem isBody_of_startsWithVerb (verb : StartsWithVerb s) :
    IsBody (s.takeWhile (· != ';')) := by
  obtain ⟨verb, reading, k, b, rfl, spelled, stop⟩ := verb
  have noSemicolon : ∀ c ∈ k, (c != ';') = true := by
    intro c hc
    have letter := isIdentifier_of_foldEq (isName_of_reading verb reading)
      (isCaseForm_iff_foldEq.mp spelled) c hc
    rw [bne_iff_ne]
    rintro rfl
    contradiction
  have front : (k ++ b).takeWhile (· != ';') = k ++ b.takeWhile (· != ';') :=
    List.takeWhile_append_of_pos noSemicolon
  refine ⟨⟨verb, reading, k, _, front, spelled, ?_⟩, ?_⟩
  · intro c hc
    rw [List.head?_takeWhile] at hc
    exact stop c (Option.mem_filter_iff.mp hc).1
  · intro semicolon
    have other := List.all_eq_true.mp List.all_takeWhile _ semicolon
    contradiction

/-- A reading verb is text of a statement. -/
theorem exists_inStatement_of_startsWithVerb (verb : StartsWithVerb s) :
    ∃ c ∈ s, inStatement c = true := by
  obtain ⟨verb, reading, k, b, rfl, spelled, -⟩ := verb
  have name := isName_of_reading verb reading
  have folded := isCaseForm_iff_foldEq.mp spelled
  obtain ⟨c, k, rfl⟩ := List.exists_cons_of_ne_nil (ne_nil_of_foldEq name folded)
  have full := not_blank_of_foldEq name folded c List.mem_cons_self
  have letter := isIdentifier_of_foldEq name folded c List.mem_cons_self
  have noSemicolon : c ≠ ';' := by
    rintro rfl
    contradiction
  exact ⟨c, by simp, by simp [inStatement, full, noSemicolon]⟩

/-- **The copy of an accepted query is one statement and a tail of semicolons and spaces**, and no
semicolon of the query itself, be it in a comment or in quotes, has a word character behind it and
any blanks. -/
theorem single_body_of_accepted (accepted : judge query = .accepted) :
    (∃ body tail, clean query = body ++ tail ∧ IsBody body ∧ ∀ c ∈ tail, c = ';' ∨ c = ' ') ∧
      ¬ GoesOn query := by
  have passes := judge_eq_accepted_iff.mp accepted
  have verb := hasLeadingVerb_iff_startsWithVerb.mp passes.leadingVerb
  have body := isBody_of_startsWithVerb verb
  have parts := List.takeWhile_append_dropWhile (p := (· != ';')) (l := clean query)
  refine ⟨⟨_, _, parts.symm, body, ?_⟩, ?_⟩
  · cases rest : (clean query).dropWhile (· != ';') with
    | nil => simp
    | cons d tail =>
        have semicolon := List.head?_dropWhile_not (· != ';') (clean query)
        rw [rest] at semicolon parts
        obtain rfl : d = ';' := by simpa using semicolon
        have single := Nat.not_lt.mpr passes.oneStatement
        rw [← parts] at single
        have behind := behind_semicolon_of_single single
          (exists_inStatement_of_startsWithVerb body.1)
        have inCopy : ∀ c ∈ tail, c ∈ clean query := by
          intro c hc
          rw [← parts]
          simp [hc]
        rw [List.forall_mem_cons]
        refine ⟨.inl rfl, fun c hc => (behind c hc).imp_right fun blank => ?_⟩
        exact eq_space_of_mem_squeeze (inCopy c hc) blank
  · have noShape := passes.noShape .multipleStatements (Shape.mem_all _)
    rw [← hasShape_multipleStatements_iff, noShape]
    simp

/-- A query with a semicolon in a comment and two more at its end. -/
theorem single_body_of_accepted_semicolons :
    judge "select 1 /* ; */ ;\n;".toList = .accepted ∧
      (∃ body tail, clean "select 1 /* ; */ ;\n;".toList = body ++ tail ∧ IsBody body ∧
        ∀ c ∈ tail, c = ';' ∨ c = ' ') ∧
      ¬ GoesOn "select 1 /* ; */ ;\n;".toList := by
  have accepted : judge "select 1 /* ; */ ;\n;".toList = .accepted := by decide +kernel
  exact ⟨accepted, single_body_of_accepted accepted⟩

end QueryGuard.Query
