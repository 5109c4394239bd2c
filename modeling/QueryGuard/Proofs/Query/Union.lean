import QueryGuard.Proofs.Pattern.Locality
import QueryGuard.Proofs.Query.Redundant
import QueryGuard.Proofs.Query.WordPair

/-!
# QueryGuard.Proofs.Query.Union

Two accepted reads with `UNION` between them.

Neither read has a comment or a semicolon in it.  Then almost nothing is found across the seam: the
single words part at the blanks of the seam, and where two words are sought beside each other, the
one at the seam would have to be `UNION`.

The one exception is the shape of a write behind a union itself.  It looks for a verb of writing in
the rest of the line without regard to what stands beside the verb, so that a name such as
`updated_at` counts.  The union of two reads is accepted exactly if no verb of writing stands in the
first line of the second one (`judge_union`).
-/

namespace QueryGuard.Query

open Text Pattern

variable {q₁ q₂ s t a c k : List Char}

/-- `UNION SELECT` or `UNION ALL SELECT` in any letter case. -/
def IsUnionSelect (head : List Char) : Prop :=
  ∃ x gap all select, head = x ++ gap ++ all ++ select ∧ IsCaseForm "UNION" x ∧ SomeBlanks gap ∧
    MaybeAll all ∧ IsCaseForm "SELECT" select

/-- Two reads with `UNION` between them. -/
def union (q₁ q₂ : List Char) : List Char := q₁ ++ " UNION ".toList ++ q₂

/-- An accepted read without comments and semicolons. -/
structure Combinable (query : List Char) : Prop where
  accepted : judge query = .accepted
  commentFree : CommentFree query
  noSemicolon : ';' ∉ query

theorem Combinable.noShape {query : List Char} (h : Combinable query) (shape : Shape) :
    hasShape shape query = false :=
  (judge_eq_accepted_iff.mp h.accepted).noShape shape (Shape.mem_all shape)

/-- Behind blanks a text begins with `SELECT`. -/
def BeginsSelect (query : List Char) : Prop :=
  ∃ blanks select rest, query = blanks ++ select ++ rest ∧ (∀ c ∈ blanks, isBlank c = true) ∧
    IsCaseForm "SELECT" select

/-- Behind blanks a text begins with `SELECT`, and a verb of writing follows with no line feed
between. -/
def WritesBehindSelect (query : List Char) : Prop :=
  ∃ blanks select between verb b, query = blanks ++ select ++ between ++ verb ++ b ∧
    (∀ c ∈ blanks, isBlank c = true) ∧ IsCaseForm "SELECT" select ∧ '\n' ∉ between ∧
      IsWriteVerb verb

/-- A union is two queries with a word between them. -/
theorem union_eq (q₁ q₂ : List Char) :
    union q₁ q₂ = q₁ ++ ' ' :: ("UNION".toList ++ ' ' :: q₂) := by
  calc union q₁ q₂
    _ = q₁ ++ (' ' :: ("UNION".toList ++ [' '])) ++ q₂ := rfl
    _ = _ := by simp only [List.append_assoc, List.cons_append, List.nil_append]

/-! ## what is sought across neither blank -/

/-- A pattern without matches across spaces is found in a union where it is in a query. -/
theorem occursIn_union_iff {p : Pattern} (ignored : p.ignores ' ' = true)
    (fixed : p.occursIn "UNION".toList = false) :
    p.occursIn (union q₁ q₂) = true ↔ p.occursIn q₁ = true ∨ p.occursIn q₂ = true := by
  rw [union_eq, occursIn_append_cons ignored, occursIn_append_cons ignored, fixed]
  simp

/-- The pairs of words that the gate looks for, apart from the beginning of a union. -/
def seamPairs : List WordPair :=
  [bulkPair, waitPair, execPair, callPair identityFunctions, callPair charFunctions]

/-- Words that do not meet at the seam are in a union only if they are in a query. -/
theorem occurs_of_occurs_union {pair : WordPair} (sought : pair ∈ seamPairs)
    (h : pair.Occurs (union q₁ q₂)) : pair.Occurs q₁ ∨ pair.Occurs q₂ := by
  have parting : ∀ pair ∈ seamPairs, pair.avoids ' ' = true ∧
      (∀ word ∈ pair.firsts, ¬ Holds word "UNION".toList) ∧
        pair.seconds.all beginsFull = true ∧
          some 'u' ∉ pair.seconds.map fun word => word.toList.head?.map fold := by
    decide +kernel
  obtain ⟨space, noFirst, full, noSecond⟩ := parting pair sought
  have fixed : ¬ (pair.Occurs "UNION".toList ∨ pair.Ends "UNION".toList) := by
    intro first
    obtain ⟨word, mem, holds⟩ := WordPair.exists_holds first
    exact noFirst word mem holds
  rw [union_eq] at h
  obtain here | later | ⟨-, -, begins⟩ := WordPair.occurs_of_append_cons space (by decide) h
  · exact .inl here
  · obtain atSeam | later | ⟨-, ends, -⟩ :=
      WordPair.occurs_of_append_cons space (by decide) later
    · exact absurd (.inl atSeam) fixed
    · exact .inr later
    · exact absurd (.inr ends) fixed
  · exact absurd (WordPair.firstLetter_mem_of_begins full begins) noSecond

/-! ## pieces of the union -/

/-- A piece without blanks stands in one of the reads or in the fixed word. -/
theorem piece_of_union (h : union s t = a ++ k ++ c) (solid : ' ' ∉ k) :
    (∃ c', s = a ++ k ++ c' ∧ c = union c' t) ∨ k <:+: "UNION".toList ∨
      ∃ a', a = union s a' ∧ t = a' ++ k ++ c := by
  rw [union_eq] at h
  obtain ⟨c', rfl, rfl⟩ | ⟨a', rfl, rest⟩ := piece_of_append_cons h solid
  · exact .inl ⟨c', rfl, (union_eq c' t).symm⟩
  · obtain ⟨c', fixed, -⟩ | ⟨a', rfl, rfl⟩ := piece_of_append_cons rest solid
    · exact .inr (.inl ⟨a', c', fixed.symm⟩)
    · exact .inr (.inr ⟨a', (union_eq s a').symm, rfl⟩)

/-- The beginning of a union stands in one of the reads, unless the union is the one between
them. -/
theorem union_pair_cases {x gap y : List Char} (h : union s t = a ++ x ++ gap ++ y ++ c)
    (first : IsOneOf unionPair.firsts x) (second : IsOneOf unionPair.seconds y)
    (blank : ∀ d ∈ gap, isBlank d = true) :
    (∃ c', s = a ++ x ++ gap ++ y ++ c' ∧ c = union c' t) ∨
      (∃ a', t = a' ++ x ++ gap ++ y ++ c) ∨
        ∃ gap', t = gap' ++ y ++ c ∧ ∀ d ∈ gap', isBlank d = true := by
  have space : unionPair.avoids ' ' = true := by decide
  have hx : ' ' ∉ x := WordPair.notMem_of_avoids space (.inl first)
  have hy : ' ' ∉ y := WordPair.notMem_of_avoids space (.inr second)
  obtain ⟨word, mem, spelled⟩ := second
  rw [union_eq] at h
  obtain ⟨c', rfl, rfl⟩ | ⟨a', rfl, rest⟩ | ⟨gap₁, gap₂, rfl, rfl, rest⟩ :=
    spaced_of_append_cons h hx hy
  · exact .inl ⟨c', rfl, (union_eq c' t).symm⟩
  · obtain ⟨c', fixed, -⟩ | ⟨a', rfl, rfl⟩ | ⟨gap₁, gap₂, rfl, fixed, rfl⟩ :=
      spaced_of_append_cons rest hx hy
    · have holds : Holds word "UNION".toList :=
        ⟨y, isCaseForm_iff_foldEq.mp spelled, a' ++ x ++ gap, c', fixed.symm⟩
      have notHolds : ∀ word ∈ unionPair.seconds, ¬ Holds word "UNION".toList := by decide +kernel
      exact absurd holds (notHolds word mem)
    · exact .inr (.inl ⟨a', rfl⟩)
    · exact .inr (.inr ⟨gap₂, rfl, fun d hd => blank d (by simp [hd])⟩)
  · have begins : unionPair.Begins ("UNION".toList ++ ' ' :: t) :=
      ⟨gap₂, y, c, rest, ⟨word, mem, spelled⟩, fun d hd => blank d (by simp [hd])⟩
    have letter := WordPair.firstLetter_mem_of_begins (by decide) begins
    have other : some 'u' ∉ unionPair.seconds.map fun word => word.toList.head?.map fold := by
      decide +kernel
    exact absurd letter other

/-! ## verbs behind the union -/

/-- Behind blanks the verb that reads holds no verb that writes. -/
theorem not_holds_write_of_select {blanks select : List Char} {verb : String}
    (write : verb ∈ writeVerbs) (blank : ∀ d ∈ blanks, isBlank d = true)
    (spelled : IsCaseForm "SELECT" select) : ¬ Holds verb (blanks ++ select) := by
  induction blanks with
  | nil =>
      have none : ∀ verb ∈ writeVerbs, ¬ Holds verb "SELECT".toList := by decide +kernel
      have same := none verb write
      rw [holds_iff_infix_fold, ← isCaseForm_iff_foldEq.mp spelled, ← holds_iff_infix_fold] at same
      exact same
  | cons d blanks ih =>
      obtain ⟨first, rest⟩ := List.forall_mem_cons.mp blank
      intro holds
      exact ih rest (holds_of_holds_cons (isName_of_write verb write)
        (isIdentifier_of_isBlank first) holds)

/-- A text that begins with a reading verb and with `SELECT` has `SELECT` as its first word. -/
theorem joins_rest_of_beginsSelect {blanks select rest : List Char}
    (front : hasLeadingVerb (trimStart (blanks ++ select ++ rest)) = true)
    (blank : ∀ d ∈ blanks, isBlank d = true) (spelled : IsCaseForm "SELECT" select) :
    joins rest.head? = false := by
  rw [trimStart_of_isCaseForm blank (by decide) spelled] at front
  obtain ⟨verb, reading, k, b, parts, folded, stop⟩ := hasLeadingVerb_iff.mp front
  have selects : "SELECT" ∈ readingVerbs := by decide
  obtain ⟨-, -, rfl⟩ :=
    eq_of_append_eq selects reading (isCaseForm_iff_foldEq.mp spelled) folded parts
  exact stop

/-- A verb of writing in the first line of a read stands behind its `SELECT`. -/
theorem writesBehindSelect_of_piece {verb b : List Char} (h : Combinable (a ++ verb ++ b))
    (begins : BeginsSelect (a ++ verb ++ b)) (sameLine : '\n' ∉ a) (write : IsWriteVerb verb) :
    WritesBehindSelect (a ++ verb ++ b) := by
  obtain ⟨blanks, select, rest, parts, blank, spelled⟩ := begins
  obtain ⟨word, mem, hverb⟩ := write
  have name := isName_of_write word mem
  have folded := isCaseForm_iff_foldEq.mp hverb
  have front := (passes_of_commentFree h.commentFree h.accepted).1
  rw [parts] at front
  have stop := joins_rest_of_beginsSelect front blank spelled
  cases rest with
  | nil => 
      have holds : Holds word (blanks ++ select) := ⟨verb, folded, a, b, by simpa using parts⟩
      exact absurd holds (not_holds_write_of_select mem blank spelled)
  | cons d rest =>
      have notIn : d ∉ verb := by
        intro hd
        have inName := isIdentifier_of_foldEq name folded d hd
        rw [List.head?_cons, joins_some, inName] at stop
        contradiction
      obtain ⟨c', inFront, -⟩ | ⟨a', rfl, rfl⟩ := piece_of_append_cons parts.symm notIn
      · have holds : Holds word (blanks ++ select) := ⟨verb, folded, a, c', inFront.symm⟩
        exact absurd holds (not_holds_write_of_select mem blank spelled)
      · refine ⟨blanks, select, d :: a', verb, b, by simp, blank, spelled, ?_, word, mem, hverb⟩
        exact fun newline => sameLine (by simp [newline])

/-- Behind a `SELECT` of the first read, a verb of writing stands in the first read or behind the
`SELECT` of the second one. -/
theorem writes_of_tail {c' between verb b : List Char} (h₂ : Combinable q₂)
    (begins : BeginsSelect q₂) (parts : between ++ verb ++ b = union c' q₂)
    (sameLine : '\n' ∉ between) (write : IsWriteVerb verb) :
    (∃ b', c' = between ++ verb ++ b') ∨ WritesBehindSelect q₂ := by
  obtain ⟨word, mem, hverb⟩ := write
  have folded := isCaseForm_iff_foldEq.mp hverb
  have solid := space_notMem (isName_of_write word mem) folded
  obtain ⟨b', rfl, -⟩ | inUnion | ⟨a, rfl, rfl⟩ := piece_of_union parts.symm solid
  · exact .inl ⟨b', rfl⟩
  · have holds : Holds word "UNION".toList := ⟨verb, folded, inUnion⟩
    have none : ∀ word ∈ writeVerbs, ¬ Holds word "UNION".toList := by decide +kernel
    exact absurd holds (none word mem)
  · have sameLine' : '\n' ∉ a := fun newline => sameLine (by simp [union, newline])
    exact .inr (writesBehindSelect_of_piece h₂ begins sameLine' ⟨word, mem, hverb⟩)

/-- A verb that writes behind the second query's first word is behind the union. -/
theorem writesBehindUnion_of_writesBehindSelect (h : WritesBehindSelect q₂) :
    WritesBehindUnion (union q₁ q₂) := by
  obtain ⟨blanks, select, between, verb, b, rfl, blank, hselect, sameLine, write⟩ := h
  have gap : SomeBlanks (' ' :: blanks) :=
    ⟨by simp, List.forall_mem_cons.mpr ⟨isBlank_space, blank⟩⟩
  refine ⟨q₁ ++ [' '], "UNION".toList, ' ' :: blanks, [], select, between, verb, b, ?_,
    isCaseForm_iff_foldEq.mpr rfl, gap, .inl rfl, hselect, sameLine, write⟩
  rw [union_eq]
  simp

/-- The verb that writes is behind a union and the verb that reads, in one line. -/
theorem writesBehindUnion_iff : WritesBehindUnion s ↔
    ∃ a head between verb b, s = a ++ head ++ (between ++ verb ++ b) ∧ IsUnionSelect head ∧
      '\n' ∉ between ∧ IsWriteVerb verb := by
  constructor
  · intro h
    obtain ⟨a, x, gap, all, select, between, verb, b, rfl, hx, hgap, hall, hselect, sameLine,
      write⟩ := h
    exact ⟨a, x ++ gap ++ all ++ select, between, verb, b, by simp,
      ⟨x, gap, all, select, rfl, hx, hgap, hall, hselect⟩, sameLine, write⟩
  · intro h
    obtain ⟨a, _, between, verb, b, rfl, ⟨x, gap, all, select, rfl, hx, hgap, hall, hselect⟩,
      sameLine, write⟩ := h
    exact ⟨a, x, gap, all, select, between, verb, b, by simp, hx, hgap, hall, hselect, sameLine,
      write⟩

/-- `UNION SELECT` stands in one of the reads, unless its `SELECT` is the one that the second read
begins with. -/
theorem unionSelect_cases {head : List Char} (begins : BeginsSelect t) (hh : IsUnionSelect head)
    (h : union s t = a ++ head ++ c) :
    (∃ c', s = a ++ head ++ c' ∧ c = union c' t) ∨ (∃ a', t = a' ++ head ++ c) ∨
      ∃ blanks select, t = blanks ++ select ++ c ∧ (∀ d ∈ blanks, isBlank d = true) ∧
        IsCaseForm "SELECT" select := by
  obtain ⟨x, gap, all, select, rfl, hx, ⟨-, blank⟩, hall, hselect⟩ := hh
  have first : IsOneOf unionPair.firsts x := ⟨"UNION", by decide, hx⟩
  obtain rfl | ⟨all, gap', rfl, hall, ⟨-, blank'⟩⟩ := hall
  · have second : IsOneOf unionPair.seconds select := ⟨"SELECT", by decide, hselect⟩
    have whole : union s t = a ++ x ++ gap ++ select ++ c := by simpa using h
    obtain ⟨c', rfl, tail⟩ | ⟨a', rfl⟩ | ⟨gap', rfl, blank'⟩ :=
      union_pair_cases whole first second blank
    · exact .inl ⟨c', by simp, tail⟩
    · exact .inr (.inl ⟨a', by simp⟩)
    · exact .inr (.inr ⟨gap', select, rfl, blank', hselect⟩)
  · have second : IsOneOf unionPair.seconds all := ⟨"ALL", by decide, hall⟩
    have whole : union s t = a ++ x ++ gap ++ all ++ (gap' ++ select ++ c) := by simpa using h
    obtain ⟨c', rfl, tail⟩ | ⟨a', rfl⟩ | ⟨gap'', rfl, blank''⟩ :=
      union_pair_cases whole first second blank
    · have solid : ' ' ∉ select :=
        space_notMem (isName_of_reading "SELECT" (by decide)) (isCaseForm_iff_foldEq.mp hselect)
      obtain ⟨c'', rfl, behind⟩ | inUnion | ⟨a', rfl, -⟩ := piece_of_union tail.symm solid
      · exact .inl ⟨c'', by simp, behind⟩
      · have holds : Holds "SELECT" "UNION".toList :=
          ⟨select, isCaseForm_iff_foldEq.mp hselect, inUnion⟩
        exact absurd holds (by decide +kernel)
      · -- the blanks behind `ALL` do not hold the fixed word
        have letter := blank' 'U' (by simp [union_eq])
        exact absurd letter (by decide)
    · exact .inr (.inl ⟨a', by simp⟩)
    · obtain ⟨blanks, select', rest, parts, blank, hselect'⟩ := begins
      have letters : "ALL".toList.head?.map fold = "SELECT".toList.head?.map fold := by
        rw [← firstLetter_of_isCaseForm blank'' (by decide) hall, parts,
          firstLetter_of_isCaseForm blank (by decide) hselect']
      exact absurd letters (by decide)

/-- If a write is found behind a union and in neither read by itself, it stands behind the `SELECT`
of the second one. -/
theorem writesBehindSelect_of_union (h₁ : Combinable q₁) (h₂ : Combinable q₂)
    (begins : BeginsSelect q₂) (h : WritesBehindUnion (union q₁ q₂)) : WritesBehindSelect q₂ := by
  have noWrite₁ := h₁.noShape .unionInjection
  have noWrite₂ := h₂.noShape .unionInjection
  rw [Bool.eq_false_iff, ne_eq, hasShape_unionInjection_iff, writesBehindUnion_iff]
    at noWrite₁ noWrite₂
  rw [writesBehindUnion_iff] at h
  obtain ⟨a, head, between, verb, b, parts, hh, sameLine, write⟩ := h
  obtain ⟨c', rfl, tail⟩ | ⟨a', rfl⟩ | ⟨blanks, select, rfl, blank, hselect⟩ :=
    unionSelect_cases begins hh parts
  · obtain ⟨b', rfl⟩ | behind := writes_of_tail h₂ begins tail sameLine write
    · exact absurd ⟨a, head, between, verb, b', rfl, hh, sameLine, write⟩ noWrite₁
    · exact behind
  · exact absurd ⟨a', head, between, verb, b, rfl, hh, sameLine, write⟩ noWrite₂
  · exact ⟨blanks, select, between, verb, b, by simp, blank, hselect, sameLine, write⟩

/-! ## the rules one by one -/

section Rules

variable (h₁ : Combinable q₁) (h₂ : Combinable q₂)
include h₁ h₂

/-- A union of queries without marks of comments has none. -/
theorem commentFree_union : CommentFree (union q₁ q₂) := by
  have parted : ∀ mark : List Char, ' ' ∉ mark → ¬ mark <:+: q₁ → ¬ mark <:+: q₂ →
      ¬ mark <:+: "UNION".toList → ¬ mark <:+: union q₁ q₂ := by
    intro mark solid not₁ not₂ fixed piece
    obtain ⟨a, c, parts⟩ := piece
    obtain ⟨c', rfl, -⟩ | inUnion | ⟨a', -, rfl⟩ := piece_of_union parts.symm solid
    · exact not₁ ⟨a, c', rfl⟩
    · exact fixed inUnion
    · exact not₂ ⟨a', c, rfl⟩
  exact ⟨parted _ (by decide) h₁.commentFree.1 h₂.commentFree.1 (by decide),
    parted _ (by decide) h₁.commentFree.2 h₂.commentFree.2 (by decide)⟩

/-- A union of queries without semicolons has none. -/
theorem semicolon_notMem_union : ';' ∉ union q₁ q₂ := by
  have fixed : ';' ∉ " UNION ".toList := by decide
  simp only [union, List.mem_append, h₁.noSemicolon, fixed, h₂.noSemicolon, or_self,
    not_false_eq_true]

/-- The words that the gate knows do not stand by themselves in the union. -/
theorem not_hasKeyword_union {word : String} (known : word ∈ deniedKeywords ++ userNames) :
    hasKeyword word (union q₁ q₂) = false := by
  have parting : ∀ word ∈ deniedKeywords ++ userNames,
      (keyword word).ignores ' ' = true ∧ (keyword word).occursIn "UNION".toList = false := by
    decide +kernel
  have absent : ∀ q, Combinable q → hasKeyword word q = false := by
    intro q h
    obtain denied | user := List.mem_append.mp known
    · exact (passes_of_commentFree h.commentFree h.accepted).2.1 word denied
    · have identity := h.noShape .identityFunction
      rw [Bool.eq_false_iff, ne_eq, hasShape_identityFunction_iff] at identity
      rw [Bool.eq_false_iff, ne_eq, hasKeyword_iff_standsIn]
      exact fun stands => identity (.inl ⟨word, user, stands⟩)
  obtain ⟨ignored, fixed⟩ := parting word known
  have noWord₁ := absent q₁ h₁
  have noWord₂ := absent q₂ h₂
  rw [hasKeyword] at noWord₁ noWord₂
  rw [hasKeyword, Bool.eq_false_iff, ne_eq, occursIn_union_iff ignored fixed, noWord₁, noWord₂]
  simp

/-- A union calls no function that the queries do not call. -/
theorem not_callsIn_union {functions : List String} (sought : callPair functions ∈ seamPairs)
    (not₁ : ¬ CallsIn functions q₁) (not₂ : ¬ CallsIn functions q₂) :
    ¬ CallsIn functions (union q₁ q₂) := by
  rw [callsIn_iff_of_commentFree h₁.commentFree] at not₁
  rw [callsIn_iff_of_commentFree h₂.commentFree] at not₂
  rw [callsIn_iff_of_commentFree (commentFree_union h₁ h₂)]
  intro occurs
  obtain here | later := occurs_of_occurs_union sought occurs
  · exact not₁ here
  · exact not₂ later

/-- A union converts no characters if the queries do not. -/
theorem not_hasCharConversion_union : hasCharConversion (union q₁ q₂) = false := by
  have absent : ∀ q, Combinable q → ¬ CallsIn charFunctions q := by
    intro q h
    rw [← hasCharConversion_iff, (judge_eq_accepted_iff.mp h.accepted).noCharConversion]
    simp
  rw [Bool.eq_false_iff, ne_eq, hasCharConversion_iff]
  exact not_callsIn_union h₁ h₂ (by decide) (absent q₁ h₁) (absent q₂ h₂)

/-- No shape is found across the seam but that of a write behind a union. -/
theorem not_hasShape_union (shape : Shape) (other : shape ≠ .unionInjection) :
    hasShape shape (union q₁ q₂) = false := by
  have across : ∀ shape : Shape, shape.pattern.ignores ' ' = true →
      shape.pattern.occursIn "UNION".toList = false → hasShape shape (union q₁ q₂) = false := by
    intro shape ignored fixed
    rw [Bool.eq_false_iff, ne_eq, hasShape, occursIn_union_iff ignored fixed, ← hasShape,
      ← hasShape, h₁.noShape, h₂.noShape]
    simp
  have paired : ∀ (shape : Shape) (pair : WordPair), pair ∈ seamPairs →
      (∀ s, hasShape shape s = true ↔ pair.Occurs s) → hasShape shape (union q₁ q₂) = false := by
    intro shape pair sought found_iff
    rw [Bool.eq_false_iff, ne_eq, found_iff]
    intro occurs
    have found := occurs_of_occurs_union sought occurs
    rw [← found_iff, ← found_iff, h₁.noShape, h₂.noShape] at found
    simp at found
  have free := commentFree_union h₁ h₂
  have semicolon := semicolon_notMem_union h₁ h₂
  have noLetter : NoLetter ';' := by decide
  cases shape with
  | selectInto =>
      have intoDenied : "INTO" ∈ deniedKeywords := by decide
      exact not_hasShape_selectInto
        (not_hasKeyword_union h₁ h₂ (List.mem_append_left userNames intoDenied))
  | separatorKeyword | multipleStatements =>
      exact not_occursIn_of_notMem noLetter (by decide) semicolon
  | unionInjection => exact absurd rfl other
  | lineCommentKeyword =>
      rw [Bool.eq_false_iff, ne_eq, hasShape_lineCommentKeyword_iff]
      intro found
      obtain ⟨a, between, verb, b, parts, -⟩ := found
      exact free.1 ⟨a, between ++ verb ++ b, by rw [parts]; simp⟩
  | blockCommentKeyword =>
      rw [Bool.eq_false_iff, ne_eq, hasShape_blockCommentKeyword_iff]
      intro found
      obtain ⟨a, between, verb, further, b, parts, -⟩ := found
      exact free.2 ⟨a, between ++ verb ++ further ++ "*/".toList ++ b, by rw [parts]; simp⟩
  | execCall => exact paired _ execPair (by decide) fun _ => hasShape_execCall_iff
  | bulkInsert => exact paired _ bulkPair (by decide) fun _ => hasShape_bulkInsert_iff
  | waitforDelay => exact paired _ waitPair (by decide) fun _ => hasShape_waitforDelay_iff
  | procedurePrefix | openRowset | openDatasource | systemVariable =>
      exact across _ (by decide +kernel) (by decide +kernel)
  | identityFunction =>
      have noCalls : ∀ q, Combinable q → ¬ CallsIn identityFunctions q := by
        intro q h calls
        have none := h.noShape .identityFunction
        rw [hasShape_identityFunction_iff.mpr (.inr calls)] at none
        contradiction
      exact not_hasShape_identityFunction
        (fun name user => not_hasKeyword_union h₁ h₂ (List.mem_append_right deniedKeywords user))
        (not_callsIn_union h₁ h₂ (by decide) (noCalls q₁ h₁) (noCalls q₂ h₂))
  | charConcat =>
      have noCall := not_hasCharConversion_union h₁ h₂
      rw [Bool.eq_false_iff]
      intro found
      rw [hasCharConversion_of_charConcat found] at noCall
      contradiction

/-- A union is at most one statement. -/
theorem one_statement_union : (statements (clean (union q₁ q₂))).length ≤ 1 := by
  rw [← Nat.not_lt, one_lt_length_statements_clean (commentFree_union h₁ h₂),
    one_lt_length_statements_iff]
  intro parts
  obtain ⟨a, b, whole, -⟩ := parts
  exact semicolon_notMem_union h₁ h₂ (by rw [whole]; simp)

end Rules

/-- A union begins with the verb of its first query. -/
theorem hasLeadingVerb_union (h₁ : Combinable q₁) (q₂ : List Char) :
    hasLeadingVerb (trimStart (union q₁ q₂)) = true := by
  have front := (passes_of_commentFree h₁.commentFree h₁.accepted).1
  have full : trimStart q₁ ≠ [] := by
    intro empty
    rw [empty, not_hasLeadingVerb_nil] at front
    contradiction
  have whole : trimStart (union q₁ q₂) = trimStart q₁ ++ ' ' :: ("UNION".toList ++ ' ' :: q₂) := by
    rw [union_eq, trimStart, List.dropWhile_append, ← trimStart,
      if_neg (by simpa [List.isEmpty_iff] using full)]
  rw [whole, hasLeadingVerb_append (.inr ⟨' ', _, rfl, isBlank_space⟩)]
  exact front

/-! ## the verdict -/

theorem length_union (q₁ q₂ : List Char) :
    (union q₁ q₂).length = q₁.length + q₂.length + 7 := by
  have fixed : " UNION ".toList.length = 7 := rfl
  simp only [union, List.length_append, fixed]
  omega

/-- **The union of two accepted reads is accepted exactly if the second one has no verb of writing,
not even as part of a name, in the line of its `SELECT`.** -/
theorem judge_union (h₁ : Combinable q₁) (h₂ : Combinable q₂) (begins : BeginsSelect q₂)
    (short : q₁.length + q₂.length + 7 ≤ 10000) :
    judge (union q₁ q₂) = .accepted ↔ ¬ WritesBehindSelect q₂ := by
  have free := commentFree_union h₁ h₂
  rw [judge_eq_accepted_iff]
  constructor
  · intro passes writes
    have noShape := passes.noShape .unionInjection (Shape.mem_all _)
    rw [hasShape_unionInjection_iff.mpr (writesBehindUnion_of_writesBehindSelect writes)] at noShape
    contradiction
  · intro noWrite
    have noUnion : hasShape .unionInjection (union q₁ q₂) = false := by
      rw [Bool.eq_false_iff, ne_eq, hasShape_unionInjection_iff]
      exact fun writes => noWrite (writesBehindSelect_of_union h₁ h₂ begins writes)
    have notBlank : allBlank (union q₁ q₂) = false := by
      have first := (judge_eq_accepted_iff.mp h₁.accepted).notBlank
      rw [allBlank] at first
      rw [allBlank, union_eq, List.all_append, first, Bool.false_and]
    exact {
      notBlank
      short := (length_union q₁ q₂).trans_le short
      leadingVerb := (hasLeadingVerb_clean free).trans (hasLeadingVerb_union h₁ q₂)
      noKeyword := fun word denied => by
        rw [hasKeyword_clean free (isName_of_denied word denied)]
        exact not_hasKeyword_union h₁ h₂ (List.mem_append_left userNames denied)
      noShape := fun shape _ => by
        by_cases same : shape = .unionInjection
        · rw [same]
          exact noUnion
        · exact not_hasShape_union h₁ h₂ shape same
      oneStatement := one_statement_union h₁ h₂
      noCharConversion := not_hasCharConversion_union h₁ h₂ }

/-- Two reads, of which the second has a verb of writing as part of a name in its second line. -/
theorem judge_union_later_line :
    Combinable "WITH a".toList ∧ Combinable "\n select a\nFROM updates".toList ∧
      BeginsSelect "\n select a\nFROM updates".toList ∧
      "WITH a".toList.length + "\n select a\nFROM updates".toList.length + 7 ≤ 10000 ∧
      ¬ WritesBehindSelect "\n select a\nFROM updates".toList := by
  have first : Combinable "WITH a".toList := ⟨by decide +kernel, by decide +kernel, by decide⟩
  have second : Combinable "\n select a\nFROM updates".toList :=
    ⟨by decide +kernel, by decide +kernel, by decide⟩
  have begins : BeginsSelect "\n select a\nFROM updates".toList :=
    ⟨"\n ".toList, "select".toList, " a\nFROM updates".toList, by decide,
      List.all_eq_true.mp (by decide), isCaseForm_iff_foldEq.mpr (by decide)⟩
  have short : "WITH a".toList.length + "\n select a\nFROM updates".toList.length + 7 ≤ 10000 := by
    decide
  exact ⟨first, second, begins, short,
    (judge_union first second begins short).mp (by decide +kernel)⟩

/-- Two accepted reads whose union is refused for the name of a column in the second one. -/
theorem union_refused_for_name :
    ¬ ∀ q₁ q₂, Combinable q₁ → Combinable q₂ → BeginsSelect q₂ →
      q₁.length + q₂.length + 7 ≤ 10000 → judge (union q₁ q₂) = .accepted := by
  intro h
  have first : Combinable "SELECT 1".toList := ⟨by decide +kernel, by decide +kernel, by decide⟩
  have second : Combinable "SELECT updated_at FROM t".toList :=
    ⟨by decide +kernel, by decide +kernel, by decide⟩
  have begins : BeginsSelect "SELECT updated_at FROM t".toList :=
    ⟨[], "SELECT".toList, " updated_at FROM t".toList, by decide, by simp,
      isCaseForm_iff_foldEq.mpr rfl⟩
  have accepted := h _ _ first second begins (by decide)
  have refused : judge (union "SELECT 1".toList "SELECT updated_at FROM t".toList) =
      .rejected (.shape .unionInjection) := by
    decide +kernel
  rw [refused] at accepted
  contradiction

end QueryGuard.Query
