import QueryGuard.Proofs.Query.CallShape
import QueryGuard.Proofs.Query.CommentFree
import QueryGuard.Proofs.Query.Discarded
import QueryGuard.Proofs.Text.Pieces

/-!
# QueryGuard.Proofs.Query.WordPair

The shapes that look for two pieces of text with nothing but blanks between them: a bulk load, a
timed wait, a call of `EXEC`, and the beginning of a union.  In a query without comments the calls
of functions are such pairs, too.

A blank in a text parts the pairs in it, unless one ends with a first piece before the blank and the
other begins with a second piece behind it (`WordPair.occurs_of_append_cons`).
-/

namespace QueryGuard.Query

open Text Pattern

variable {s t k : List Char} {b : Char}

/-- A case form of one of some words. -/
def IsOneOf (words : List String) (k : List Char) : Prop := ∃ word ∈ words, IsCaseForm word k

/-- Two pieces of text with blanks between them. -/
structure WordPair where
  firsts : List String
  seconds : List String
  /-- No character of a name may stand before the first piece. -/
  startsName : Bool
  /-- There is at least one blank. -/
  parted : Bool
deriving DecidableEq

namespace WordPair

/-- The two pieces stand in a text. -/
def Occurs (p : WordPair) (s : List Char) : Prop :=
  ∃ a x gap y b, s = a ++ x ++ gap ++ y ++ b ∧ IsOneOf p.firsts x ∧ IsOneOf p.seconds y ∧
    (∀ c ∈ gap, isBlank c = true) ∧ (p.parted = true → gap ≠ []) ∧
    (p.startsName = true → Clear a.getLast?)

/-- A first piece ends a text, but for blanks. -/
def Ends (p : WordPair) (s : List Char) : Prop :=
  ∃ a x gap, s = a ++ x ++ gap ∧ IsOneOf p.firsts x ∧ ∀ c ∈ gap, isBlank c = true

/-- A second piece begins a text, but for blanks. -/
def Begins (p : WordPair) (s : List Char) : Prop :=
  ∃ gap y b, s = gap ++ y ++ b ∧ IsOneOf p.seconds y ∧ ∀ c ∈ gap, isBlank c = true

/-- Whether no case form of a character is in the pieces. -/
def avoids (p : WordPair) (b : Char) : Bool :=
  (p.firsts ++ p.seconds).all fun word => word.toList.all fun c => fold c != fold b

end WordPair

/-! ## the pairs that the gate looks for -/

/-- A bulk load. -/
def bulkPair : WordPair := ⟨["BULK"], ["INSERT"], false, true⟩

/-- A timed wait. -/
def waitPair : WordPair := ⟨["WAITFOR"], ["DELAY", "TIME"], false, true⟩

/-- The beginning of a union. -/
def unionPair : WordPair := ⟨["UNION"], ["ALL", "SELECT"], false, true⟩

/-- A call of `EXEC`. -/
def execPair : WordPair := ⟨["EXEC", "EXECUTE"], ["("], false, false⟩

/-- A call of one of some functions without comments in it. -/
def callPair (functions : List String) : WordPair := ⟨functions, ["("], true, false⟩

/-- Two words with blanks between are found exactly where the pair stands. -/
theorem occursIn_parted_iff (firsts seconds : List String) :
    (inRow [oneOf firsts, someBlanks, oneOf seconds]).occursIn s = true ↔
      WordPair.Occurs ⟨firsts, seconds, false, true⟩ s := by
  have free : (inRow [oneOf firsts, someBlanks, oneOf seconds]).looksBeside = false := by
    have gap : someBlanks.looksBeside = false := by decide
    simp [looksBeside_inRow, looksBeside_oneOf, gap]
  rw [occursIn_iff_mem_language free]
  simp only [mem_language_inRow_cons, mem_language_inRow_nil, mem_language_oneOf,
    mem_language_someBlanks]
  constructor
  · intro h
    obtain ⟨a, _, b, rfl, x, _, rfl, first, gap, _, rfl, ⟨parted, blank⟩, y, _, rfl, second,
      rfl⟩ := h
    exact ⟨a, x, gap, y, b, by simp, first, second, blank, fun _ => parted, by simp⟩
  · intro h
    obtain ⟨a, x, gap, y, b, rfl, first, second, blank, parted, -⟩ := h
    exact ⟨a, x ++ (gap ++ (y ++ [])), b, by simp, x, _, rfl, first, gap, _, rfl,
      ⟨parted rfl, blank⟩, y, [], rfl, second, rfl⟩

theorem hasShape_bulkInsert_iff : hasShape .bulkInsert s = true ↔ bulkPair.Occurs s :=
  occursIn_parted_iff ["BULK"] ["INSERT"]

theorem hasShape_waitforDelay_iff : hasShape .waitforDelay s = true ↔ waitPair.Occurs s :=
  occursIn_parted_iff ["WAITFOR"] ["DELAY", "TIME"]

theorem unionPair_occurs_of_writesBehindUnion (h : WritesBehindUnion s) : unionPair.Occurs s := by
  obtain ⟨a, union, gap, all, select, between, verb, b, rfl, hunion, ⟨parted, blank⟩, hall,
    hselect, -, -⟩ := h
  have first : IsOneOf ["UNION"] union := ⟨_, List.mem_singleton_self _, hunion⟩
  obtain rfl | ⟨all, gap', rfl, spelled, -⟩ := hall
  · exact ⟨a, union, gap, select, between ++ verb ++ b, by simp, first, ⟨"SELECT", by decide,
      hselect⟩, blank, fun _ => parted, by simp [unionPair]⟩
  · exact ⟨a, union, gap, all, gap' ++ select ++ between ++ verb ++ b, by simp, first,
      ⟨"ALL", by decide, spelled⟩, blank, fun _ => parted, by simp [unionPair]⟩

/-! ## calls -/

/-- The one word is the other with three letters behind it. -/
theorem isOneOf_exec_iff : IsOneOf ["EXEC", "EXECUTE"] k ↔
    ∃ m n, k = m ++ n ∧ IsCaseForm "EXEC" m ∧ (IsCaseForm "UTE" n ∨ n = []) := by
  have whole : "EXECUTE".toList.map fold = "EXEC".toList.map fold ++ "UTE".toList.map fold := rfl
  simp only [IsOneOf, List.mem_cons, List.not_mem_nil, or_false, exists_eq_or_imp, exists_eq_left,
    isCaseForm_iff_foldEq]
  constructor
  · intro h
    obtain exec | execute := h
    · exact ⟨k, [], by simp, exec, .inr rfl⟩
    · rw [FoldEq, whole] at execute
      obtain ⟨m, n, rfl, exec, ute⟩ := List.map_eq_append_iff.mp execute
      exact ⟨m, n, rfl, exec, .inl ute⟩
  · intro h
    obtain ⟨m, n, rfl, exec, ute | rfl⟩ := h
    · refine .inr ?_
      rw [FoldEq, whole, List.map_append, exec, ute]
    · exact .inl (by simpa using exec)

theorem mem_language_ute {piece : List Char} :
    piece ∈ (Pattern.optional (text "UTE")).language ↔ IsCaseForm "UTE" piece ∨ piece = [] := by
  rw [Pattern.optional, language, Language.mem_add, mem_language_text]
  exact Iff.rfl

theorem isOneOf_parenthesis_iff : IsOneOf ["("] k ↔ k = "(".toList := by
  have parenthesis : IsMark "(" := by decide
  rw [← isCaseForm_iff_eq parenthesis]
  simp [IsOneOf]

/-- The shape is found exactly where one of its words stands before a parenthesis. -/
theorem hasShape_execCall_iff : hasShape .execCall s = true ↔ execPair.Occurs s := by
  have parenthesis : IsMark "(" := by decide
  rw [hasShape, Shape.pattern, occursIn_iff_mem_language (by decide)]
  simp only [mem_language_inRow_cons, mem_language_inRow_nil, mem_language_text, mem_language_ute,
    mem_language_blanks, isCaseForm_iff_eq parenthesis, WordPair.Occurs, execPair,
    isOneOf_exec_iff, isOneOf_parenthesis_iff]
  constructor
  · intro h
    obtain ⟨a, _, b, rfl, exec, _, rfl, hexec, ute, _, rfl, hute, gap, _, rfl, blank, _, _, rfl,
      rfl, rfl⟩ := h
    exact ⟨a, exec ++ ute, gap, "(".toList, b, by simp, ⟨exec, ute, rfl, hexec, hute⟩, rfl, blank,
      by simp, by simp⟩
  · intro h
    obtain ⟨a, _, gap, _, b, rfl, ⟨exec, ute, rfl, hexec, hute⟩, rfl, blank, -, -⟩ := h
    exact ⟨a, exec ++ (ute ++ (gap ++ ("(".toList ++ []))), b, by simp, exec, _, rfl, hexec, ute,
      _, rfl, hute, gap, _, rfl, blank, _, [], rfl, rfl, rfl⟩

theorem CommentFree.of_infix (free : CommentFree s) (piece : t <:+: s) : CommentFree t :=
  ⟨fun h => free.1 (h.trans piece), fun h => free.2 (h.trans piece)⟩

/-- Without comments a gap is made of blanks. -/
theorem isBlank_of_gap (free : CommentFree s) (gap : Gap s) : ∀ c ∈ s, isBlank c = true := by
  obtain ⟨items, rfl, described⟩ := gap
  intro c hc
  obtain ⟨item, mem, inItem⟩ := List.mem_flatten.mp hc
  have freeItem := free.of_infix (List.infix_of_mem_flatten mem)
  cases described item mem with
  | blank h =>
      obtain rfl := List.mem_singleton.mp inItem
      exact h
  | block body =>
      rw [List.append_assoc] at freeItem
      exact absurd (List.prefix_append _ _).isInfix freeItem.2
  | @line body _ =>
      rw [List.append_assoc] at freeItem
      exact absurd (List.prefix_append _ _).isInfix freeItem.1

/-- Blanks are a gap. -/
theorem gap_of_isBlank (blank : ∀ c ∈ s, isBlank c = true) : Gap s := by
  refine ⟨s.map fun c => [c], (List.flatMap_singleton' s).symm, ?_⟩
  rw [List.forall_mem_map]
  exact fun c hc => .blank (blank c hc)

/-- In a query without comments a call is a name and a parenthesis with blanks between. -/
theorem callsIn_iff_of_commentFree {functions : List String} (free : CommentFree s) :
    CallsIn functions s ↔ (callPair functions).Occurs s := by
  simp only [WordPair.Occurs, callPair, isOneOf_parenthesis_iff]
  constructor
  · intro h
    obtain ⟨a, _, b, rfl, clear, name, gap, rfl, named, hgap⟩ := h
    have inside : gap <:+: a ++ (name ++ gap ++ "(".toList) ++ b :=
      ⟨a ++ name, "(".toList ++ b, by simp only [List.append_assoc]⟩
    have blank := isBlank_of_gap (free.of_infix inside) hgap
    exact ⟨a, name, gap, "(".toList, b, by simp, named, rfl, blank, by simp, fun _ => clear⟩
  · intro h
    obtain ⟨a, name, gap, _, b, rfl, named, rfl, blank, -, clear⟩ := h
    exact ⟨a, name ++ gap ++ "(".toList, b, by simp, clear trivial, name, gap, rfl, named,
      gap_of_isBlank blank⟩

/-- Between blanks `INTO` is a token. -/
theorem hasKeyword_into_of_selectsInto (h : SelectsInto s) : hasKeyword "INTO" s = true := by
  obtain ⟨a, select, gap, between, gap', into, blank, b, rfl, -, -, -, ⟨full, blanks⟩, spelled,
    hblank⟩ := h
  rw [hasKeyword_iff]
  refine ⟨a ++ select ++ gap ++ between ++ gap', into, blank :: b, by simp,
    isCaseForm_iff_foldEq.mp spelled, ?_, isIdentifier_of_isBlank hblank⟩
  rw [List.getLast?_append_of_ne_nil _ full]
  cases last : gap'.getLast? with
  | none => rfl
  | some c => exact isIdentifier_of_isBlank (blanks c (List.mem_of_getLast? last))

/-- Without its second word the shape is not found. -/
theorem not_hasShape_selectInto (h : hasKeyword "INTO" s = false) :
    hasShape .selectInto s = false := by
  rw [Bool.eq_false_iff, ne_eq, hasShape_selectInto_iff]
  intro found
  rw [hasKeyword_into_of_selectsInto found] at h
  contradiction

/-! ## the first letter of a text -/

/-- The first letter of a text behind blanks, without regard to case. -/
def firstLetter (s : List Char) : Option Char := (trimStart s).head?.map fold

/-- Whether a word begins with a character that is not blank. -/
def beginsFull (word : String) : Bool := word.toList.head?.any fun c => !isBlank c

section FirstLetter

variable {gap y rest : List Char} {word : String} (blank : ∀ c ∈ gap, isBlank c = true)
  (full : beginsFull word = true) (spelled : IsCaseForm word y)
include blank full spelled

/-- A full word ends the blanks before it. -/
theorem trimStart_of_isCaseForm : trimStart (gap ++ y ++ rest) = y ++ rest := by
  rw [isCaseForm_iff_foldEq, FoldEq] at spelled
  rw [beginsFull] at full
  generalize word.toList = letters at full spelled
  cases letters with
  | nil => contradiction
  | cons c letters =>
      obtain ⟨d, y, rfl, same, -⟩ := List.map_eq_cons_iff.mp spelled
      have fullHere : isBlank d = false := by
        rw [← isBlank_fold, same, isBlank_fold]
        simpa using full
      rw [trimStart, List.append_assoc, List.dropWhile_append_of_pos blank, List.cons_append,
        List.dropWhile_cons_of_neg (by simp [fullHere])]

/-- A word that begins a text, behind blanks, gives it its first letter. -/
theorem firstLetter_of_isCaseForm :
    firstLetter (gap ++ y ++ rest) = word.toList.head?.map fold := by
  have heads := congrArg List.head? (isCaseForm_iff_foldEq.mp spelled)
  rw [List.head?_map, List.head?_map] at heads
  rw [firstLetter, trimStart_of_isCaseForm blank full spelled, ← heads]
  cases y with
  | nil =>
      rw [beginsFull, Option.map_eq_none_iff.mp heads.symm] at full
      contradiction
  | cons d y => rfl

end FirstLetter

/-! ## pairs across a character -/

namespace WordPair

variable {p : WordPair}

/-- A character that a pair avoids is in neither of its words. -/
theorem notMem_of_avoids (avoided : p.avoids b = true)
    (piece : IsOneOf p.firsts k ∨ IsOneOf p.seconds k) : b ∉ k := by
  obtain ⟨word, mem, spelled⟩ : ∃ word ∈ p.firsts ++ p.seconds, IsCaseForm word k := by
    simpa [IsOneOf, or_and_right, exists_or] using piece
  intro hb
  obtain ⟨c, hc, same⟩ : ∃ c ∈ word.toList, fold c = fold b := by
    have folded : fold b ∈ word.toList.map fold :=
      isCaseForm_iff_foldEq.mp spelled ▸ List.mem_map_of_mem hb
    exact List.mem_map.mp folded
  have other := List.all_eq_true.mp (List.all_eq_true.mp avoided word mem) c hc
  rw [same, bne_self_eq_false] at other
  contradiction

/-- A character that is in neither piece parts the pairs of a text, unless it belongs to the blanks
of one. -/
theorem occurs_of_append_cons (avoided : p.avoids b = true) (other : isIdentifier b = false)
    (h : p.Occurs (s ++ b :: t)) :
    p.Occurs s ∨ p.Occurs t ∨ isBlank b = true ∧ p.Ends s ∧ p.Begins t := by
  obtain ⟨a, x, gap, y, c, parts, first, second, blank, parted, clear⟩ := h
  have hx : b ∉ x := notMem_of_avoids avoided (.inl first)
  have hy : b ∉ y := notMem_of_avoids avoided (.inr second)
  obtain ⟨c', rfl, -⟩ | ⟨a', rfl, rfl⟩ | ⟨gap₁, gap₂, rfl, rfl, rfl⟩ :=
    spaced_of_append_cons parts hx hy
  · exact .inl ⟨a, x, gap, y, c', rfl, first, second, blank, parted, clear⟩
  · refine .inr (.inl ⟨a', x, gap, y, c, rfl, first, second, blank, parted, fun starts => ?_⟩)
    rw [← joins_eq_false_iff, ← joins_getLast?_append_cons other s, joins_eq_false_iff]
    exact clear starts
  · simp only [List.forall_mem_append, List.forall_mem_cons] at blank
    exact .inr (.inr ⟨blank.2.1, ⟨a, x, gap₁, rfl, first, blank.1⟩,
      ⟨gap₂, y, c, rfl, second, blank.2.2⟩⟩)

/-- A text with a pair in it, or with a first piece at its end, holds a first piece. -/
theorem exists_holds (h : p.Occurs s ∨ p.Ends s) : ∃ word ∈ p.firsts, Holds word s := by
  obtain ⟨a, x, gap, y, b, rfl, ⟨word, mem, spelled⟩, -⟩ |
    ⟨a, x, gap, rfl, ⟨word, mem, spelled⟩, -⟩ := h
  · exact ⟨word, mem, x, isCaseForm_iff_foldEq.mp spelled, a, gap ++ y ++ b, by simp⟩
  · exact ⟨word, mem, x, isCaseForm_iff_foldEq.mp spelled, a, gap, rfl⟩

/-- A text without blanks holds no parted pair. -/
theorem not_occurs_of_noBlank (parted : p.parted = true) (noBlank : ∀ c ∈ s, isBlank c = false) :
    ¬ p.Occurs s := by
  intro h
  obtain ⟨a, x, gap, y, b, rfl, -, -, blank, full, -⟩ := h
  obtain ⟨c, gap, rfl⟩ := List.exists_cons_of_ne_nil (full parted)
  have inGap := blank c List.mem_cons_self
  rw [noBlank c (by simp)] at inGap
  contradiction

/-- A text that begins with a second piece has its first letter from it. -/
theorem firstLetter_mem_of_begins (full : p.seconds.all beginsFull = true) (h : p.Begins s) :
    firstLetter s ∈ p.seconds.map fun word => word.toList.head?.map fold := by
  obtain ⟨gap, y, rest, rfl, ⟨word, mem, spelled⟩, blank⟩ := h
  rw [firstLetter_of_isCaseForm blank (List.all_eq_true.mp full word mem) spelled]
  exact List.mem_map_of_mem mem

end WordPair

end QueryGuard.Query
