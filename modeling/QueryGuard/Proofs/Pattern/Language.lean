import Mathlib.Computability.Language
import QueryGuard.Proofs.Pattern.Composite
import QueryGuard.Proofs.Text.CaseForms

/-!
# QueryGuard.Proofs.Pattern.Language

Patterns as languages.

A pattern that asks nothing of the characters beside a piece describes a piece wherever it stands or
nowhere: it has a *language* (`matches_iff_mem_language`).  A row of patterns has the product of
their languages, a choice their sum, and a repetition the star:

```
inRow [p, q, r]   p.language * (q.language * r.language)
anyOf [p, q]      p.language + q.language
many p            p.language∗
```

So what such a pattern finds in a text is told by cutting the text into pieces
(`occursIn_iff_mem_language`).
-/

open scoped Computability

namespace QueryGuard.Pattern

open Text

/-- The pieces that a pattern describes, apart from what it asks of the characters beside them. -/
def language : Pattern → Language Char
  | .never => 0
  | .empty | .unlessAfter _ | .unlessBefore _ | .edge => 1
  | .one k => {piece | ∃ c, piece = [c] ∧ k.has c = true}
  | .seq p q => p.language * q.language
  | .alt p q => p.language + q.language
  | .many p => p.language∗

/-- Whether a pattern asks something of the characters beside a piece. -/
def looksBeside : Pattern → Bool
  | .never | .empty | .one _ => false
  | .seq p q | .alt p q => p.looksBeside || q.looksBeside
  | .many p => p.looksBeside
  | .unlessAfter _ | .unlessBefore _ | .edge => true

variable {p q : Pattern} {before piece after s : List Char}

/-! ## pieces and words of the language -/

/-- A piece that matches is in the language. -/
theorem mem_language_of_matches (h : Matches p before piece after) : piece ∈ p.language := by
  induction h with
  | empty | unlessAfter _ | unlessBefore _ | edge _ => exact Language.nil_mem_one
  | one has => exact ⟨_, rfl, has⟩
  | seq _ _ ihp ihq => exact Language.append_mem_mul ihp ihq
  | left _ ih => exact .inl ih
  | right _ ih => exact .inr ih
  | done => exact Language.nil_mem_kstar _
  | more _ _ ihFirst ihRest =>
      obtain ⟨pieces, rfl, described⟩ := Language.mem_kstar.mp ihRest
      have all := List.forall_mem_cons.mpr ⟨ihFirst, described⟩
      exact Language.join_mem_kstar all

/-- Where a pattern does not look beside, a piece of its language matches. -/
theorem matches_of_mem_language (free : p.looksBeside = false) (h : piece ∈ p.language) :
    Matches p before piece after := by
  induction p generalizing before piece after with
  | never => exact absurd h (Language.notMem_zero piece)
  | empty => exact matches_empty_iff.mpr h
  | one k => exact matches_one_iff.mpr h
  | seq p q ihp ihq =>
      obtain ⟨freep, freeq⟩ := Bool.or_eq_false_iff.mp free
      obtain ⟨m, hm, n, hn, rfl⟩ := Language.mem_mul.mp h
      exact .seq (ihp freep hm) (ihq freeq hn)
  | alt p q ihp ihq =>
      obtain ⟨freep, freeq⟩ := Bool.or_eq_false_iff.mp free
      obtain here | here := (Language.mem_add _ _ _).mp h
      · exact .left (ihp freep here)
      · exact .right (ihq freeq here)
  | many p ih =>
      obtain ⟨pieces, rfl, described⟩ := Language.mem_kstar.mp h
      clear h
      induction pieces generalizing before with
      | nil => exact .done
      | cons m pieces ihPieces =>
          obtain ⟨first, rest⟩ := List.forall_mem_cons.mp described
          exact .more (ih free first) (ihPieces rest)
  | unlessAfter _ | unlessBefore _ | edge => cases free

/-- A pattern without conditions describes the words of its language, wherever they stand. -/
theorem matches_iff_mem_language (free : p.looksBeside = false) :
    Matches p before piece after ↔ piece ∈ p.language :=
  ⟨mem_language_of_matches, matches_of_mem_language free⟩

/-- A pattern without conditions is found exactly where a word of its language stands. -/
theorem occursIn_iff_mem_language (free : p.looksBeside = false) :
    p.occursIn s = true ↔ ∃ a piece b, s = a ++ piece ++ b ∧ piece ∈ p.language := by
  rw [occursIn_iff]
  simp only [matches_iff_mem_language free]

/-! ## rows and choices -/

/- A row and a choice of one pattern are that pattern itself, so the last pattern is told from the
others wherever they are taken apart. -/

/-- The language of patterns in a row is the product of theirs. -/
theorem language_inRow_cons (p : Pattern) (ps : List Pattern) :
    (inRow (p :: ps)).language = p.language * (inRow ps).language := by
  cases ps with
  | nil => exact (mul_one p.language).symm
  | cons q qs => rfl

/-- The language of several patterns is the sum of theirs. -/
theorem language_anyOf_cons (p : Pattern) (ps : List Pattern) :
    (anyOf (p :: ps)).language = p.language + (anyOf ps).language := by
  cases ps with
  | nil => exact (add_zero p.language).symm
  | cons q qs => rfl

/-- A row is cut behind the piece of its first pattern. -/
theorem mem_language_inRow_cons {ps : List Pattern} :
    piece ∈ (inRow (p :: ps)).language ↔
      ∃ m n, piece = m ++ n ∧ m ∈ p.language ∧ n ∈ (inRow ps).language := by
  rw [language_inRow_cons, Language.mem_mul]
  constructor
  · intro h
    obtain ⟨m, hm, n, hn, rfl⟩ := h
    exact ⟨m, n, rfl, hm, hn⟩
  · intro h
    obtain ⟨m, n, rfl, hm, hn⟩ := h
    exact ⟨m, hm, n, hn, rfl⟩

theorem mem_language_inRow_nil : piece ∈ (inRow []).language ↔ piece = [] := Iff.rfl

/-- A piece is in the language of several patterns if it is in that of one. -/
theorem mem_language_anyOf {ps : List Pattern} :
    piece ∈ (anyOf ps).language ↔ ∃ p ∈ ps, piece ∈ p.language := by
  induction ps with
  | nil => simp [anyOf, language]
  | cons p ps ih =>
      rw [language_anyOf_cons, Language.mem_add, ih]
      simp only [List.mem_cons, or_and_right, exists_or, exists_eq_left]

/-- Patterns in a row look beside if one of them does. -/
theorem looksBeside_inRow (ps : List Pattern) : (inRow ps).looksBeside = ps.any looksBeside := by
  induction ps with
  | nil => rfl
  | cons p ps ih =>
      cases ps with
      | nil => simp [inRow]
      | cons q qs =>
          rw [List.any_cons, ← ih]
          rfl

/-- Several patterns look beside if one of them does. -/
theorem looksBeside_anyOf (ps : List Pattern) : (anyOf ps).looksBeside = ps.any looksBeside := by
  induction ps with
  | nil => rfl
  | cons p ps ih =>
      cases ps with
      | nil => simp [anyOf]
      | cons q qs =>
          rw [List.any_cons, ← ih]
          rfl

/-! ## the named patterns -/

theorem looksBeside_text (word : String) : (text word).looksBeside = false := by
  rw [text, looksBeside_inRow, List.any_map]
  simp [Function.comp_def, looksBeside]

theorem looksBeside_oneOf (words : List String) : (oneOf words).looksBeside = false := by
  rw [oneOf, looksBeside_anyOf, List.any_map]
  simp [Function.comp_def, looksBeside_text]

/-- The language of a text is made of its case forms. -/
theorem mem_language_text {word : String} :
    piece ∈ (text word).language ↔ IsCaseForm word piece := by
  have described : Matches (text word) [] piece [] ↔ FoldEq piece word.toList := matches_text_iff
  rw [isCaseForm_iff_foldEq, ← described, matches_iff_mem_language (looksBeside_text word)]

/-- A fixed text without letters has only itself in its language. -/
theorem mem_language_mark {mark : String} (h : IsMark mark) :
    piece ∈ (text mark).language ↔ piece = mark.toList := by
  rw [mem_language_text, isCaseForm_iff_eq h]

/-- The language of several texts is made of the case forms of each. -/
theorem mem_language_oneOf {words : List String} :
    piece ∈ (oneOf words).language ↔ ∃ word ∈ words, IsCaseForm word piece := by
  have described : Matches (oneOf words) [] piece [] ↔ ∃ word ∈ words, FoldEq piece word.toList :=
    matches_oneOf_iff
  simp only [isCaseForm_iff_foldEq]
  rw [← described, matches_iff_mem_language (looksBeside_oneOf words)]

/-- Many characters of a class are those that it holds. -/
theorem mem_language_many_one {k : CharClass} :
    piece ∈ (many (.one k)).language ↔ ∀ c ∈ piece, k.has c = true := by
  have described : Matches (many (.one k)) [] piece [] ↔ ∀ c ∈ piece, k.has c = true :=
    matches_many_one_iff
  rw [← described, matches_iff_mem_language rfl]

theorem mem_language_blanks : piece ∈ blanks.language ↔ ∀ c ∈ piece, isBlank c = true :=
  mem_language_many_one

/-- The rest of a line does not go beyond it. -/
theorem mem_language_restOfLine : piece ∈ restOfLine.language ↔ '\n' ∉ piece := by
  rw [restOfLine, mem_language_many_one]
  simp only [CharClass.has, bne_iff_ne]
  exact List.forall_mem_ne'

theorem mem_language_anything : piece ∈ anything.language := by
  rw [anything, mem_language_many_one]
  exact fun _ _ => rfl

/-- Blanks, at least one. -/
def SomeBlanks (s : List Char) : Prop := s ≠ [] ∧ ∀ c ∈ s, isBlank c = true

/-- Some blanks are at least one. -/
theorem mem_language_someBlanks : piece ∈ someBlanks.language ↔ SomeBlanks piece := by
  rw [someBlanks, oneOrMore, language, Language.mem_mul]
  constructor
  · intro h
    obtain ⟨_, ⟨c, rfl, blank⟩, rest, blanks, rfl⟩ := h
    rw [mem_language_many_one] at blanks
    exact ⟨by simp, List.forall_mem_cons.mpr ⟨blank, blanks⟩⟩
  · intro h
    obtain ⟨nonempty, blanks⟩ := h
    obtain ⟨c, rest, rfl⟩ := List.exists_cons_of_ne_nil nonempty
    obtain ⟨blank, blanks⟩ := List.forall_mem_cons.mp blanks
    exact ⟨[c], ⟨c, rfl, blank⟩, rest, mem_language_many_one.mpr blanks, rfl⟩

end QueryGuard.Pattern
