import QueryGuard.Proofs.Pattern.Locality
import QueryGuard.Proofs.Text.Words
import QueryGuard.Query.Gate

/-!
# QueryGuard.Proofs.Query.Token

The tests of the gate for keywords and for the leading verb as tests for tokens.

* `hasKeyword_iff` and `hasLeadingVerb_iff` — what the tests find, told by positions in the text;
* `hasKeyword_squeeze` and `hasLeadingVerb_squeeze` — joining the words of a text by single spaces
  changes neither test, since a blank parts tokens and belongs to none.
-/

namespace QueryGuard.Query

open Text Pattern

/-! ## characters of tokens -/

/-- A blank belongs to no identifier. -/
theorem isIdentifier_of_isBlank {c : Char} (blank : isBlank c = true) : isIdentifier c = false :=
  of_isBlank (P := fun c => isIdentifier c = false) (by decide +kernel) blank

/-- A word of identifier characters only. -/
def IsName (word : String) : Prop :=
  word.toList ≠ [] ∧ ∀ c ∈ word.toList, isIdentifier c = true

/- The instance goes over the characters of the word; a search for one may go over all characters
there are. -/
instance (word : String) : Decidable (IsName word) :=
  have := List.decidableBAll (isIdentifier · = true) word.toList
  inferInstanceAs (Decidable (_ ∧ _))

/-- The verbs that begin a read. -/
def readingVerbs : List String := ["SELECT", "WITH"]

theorem isName_of_denied : ∀ word ∈ deniedKeywords, IsName word := by decide +kernel

theorem isName_of_reading : ∀ word ∈ readingVerbs, IsName word := by decide

variable {word : String} {k : List Char}

/-- What is folded to a name is made of identifier characters. -/
theorem isIdentifier_of_foldEq (name : IsName word) (spelled : FoldEq k word.toList) :
    ∀ c ∈ k, isIdentifier c = true := by
  intro c hc
  have mem : fold c ∈ word.toList.map fold := spelled ▸ List.mem_map_of_mem hc
  obtain ⟨d, hd, same⟩ := List.mem_map.mp mem
  rw [← isIdentifier_congr same]
  exact name.2 d hd

/-- What is folded to a name has no blank. -/
theorem not_blank_of_foldEq (name : IsName word) (spelled : FoldEq k word.toList) :
    ∀ c ∈ k, isBlank c = false := by
  intro c hc
  have inName := isIdentifier_of_foldEq name spelled c hc
  cases blank : isBlank c with
  | false => rfl
  | true => rw [isIdentifier_of_isBlank blank] at inName; contradiction

theorem space_notMem (name : IsName word) (spelled : FoldEq k word.toList) : ' ' ∉ k := by
  intro space
  have := not_blank_of_foldEq name spelled ' ' space
  rw [isBlank_space] at this
  contradiction

/-- What is folded to a name is not empty. -/
theorem ne_nil_of_foldEq (name : IsName word) (spelled : FoldEq k word.toList) : k ≠ [] := by
  intro h
  subst h
  exact name.1 (List.map_eq_nil_iff.mp spelled.symm)

/-! ## the ends of a token -/

/-- Whether an identifier goes on at one side of a position. -/
def joins (c? : Option Char) : Bool := CharClass.identifier.hasAt c?

@[simp] theorem joins_none : joins none = false := rfl

@[simp] theorem joins_some (c : Char) : joins (some c) = isIdentifier c := rfl

/-- A character that joins nothing ends what may be joined on the right. -/
theorem joins_head?_append_cons {b : Char} (other : isIdentifier b = false) (s t : List Char) :
    joins (s ++ b :: t).head? = joins s.head? := by
  cases s with
  | nil => simp [other]
  | cons c s => rfl

/-- A character that joins nothing ends what may be joined on the left. -/
theorem joins_getLast?_append_cons {b : Char} (other : isIdentifier b = false) (s t : List Char) :
    joins (s ++ b :: t).getLast? = joins t.getLast? := by
  rw [List.getLast?_append, List.getLast?_cons]
  cases h : t.getLast? with
  | none => simp [other]
  | some c => simp

section TokenEnds

variable {p : Pattern} {before piece after : List Char}

/-- At the start of a token nothing is joined on the left. -/
theorem matches_tokenStart_seq_iff :
    Matches (.seq tokenStart p) before piece after ↔
      joins before.getLast? = false ∧ Matches p before piece after := by
  rw [tokenStart, matches_seq_iff]
  simp only [matches_unlessAfter_iff]
  constructor
  · intro h
    obtain ⟨_, n, rfl, ⟨rfl, free⟩, here⟩ := h
    exact ⟨free, by simpa using here⟩
  · intro h
    obtain ⟨free, here⟩ := h
    exact ⟨[], piece, rfl, ⟨rfl, free⟩, by simpa using here⟩

/-- At the end of a token nothing is joined on the right. -/
theorem matches_seq_tokenEnd_iff :
    Matches (.seq p tokenEnd) before piece after ↔
      Matches p before piece after ∧ joins after.head? = false := by
  rw [tokenEnd, matches_seq_iff]
  simp only [matches_unlessBefore_iff]
  constructor
  · intro h
    obtain ⟨m, _, rfl, here, rfl, stop⟩ := h
    exact ⟨by simpa using here, stop⟩
  · intro h
    obtain ⟨here, stop⟩ := h
    exact ⟨piece, [], by simp, by simpa using here, rfl, stop⟩

end TokenEnds

/-! ## keywords -/

/-- A keyword is found exactly where its letters stand, in any case form, with no character of an
identifier beside them. -/
theorem hasKeyword_iff {s : List Char} :
    hasKeyword word s = true ↔
      ∃ a k b, s = a ++ k ++ b ∧ FoldEq k word.toList ∧
        joins a.getLast? = false ∧ joins b.head? = false := by
  have parts : keyword word = .seq tokenStart (.seq (text word) tokenEnd) := rfl
  rw [hasKeyword, parts, occursIn_iff]
  simp only [matches_tokenStart_seq_iff, matches_seq_tokenEnd_iff, matches_text_iff]
  constructor
  · intro h
    obtain ⟨a, k, b, hs, free, spelled, stop⟩ := h
    exact ⟨a, k, b, hs, spelled, free, stop⟩
  · intro h
    obtain ⟨a, k, b, hs, spelled, free, stop⟩ := h
    exact ⟨a, k, b, hs, free, spelled, stop⟩

/-- The pattern of a keyword has no match across a character that joins nothing. -/
theorem ignores_keyword (name : IsName word) {b : Char} (other : isIdentifier b = false) :
    (keyword word).ignores b = true := by
  have letters : ∀ c ∈ word.toList, fold c ≠ fold b := by
    intro c hc same
    have inName := name.2 c hc
    rw [isIdentifier_congr same, other] at inName
    contradiction
  simp [keyword, tokenStart, tokenEnd, ignores_inRow, ignores_text letters, ignores, CharClass.has,
    other]

/-- A character of no identifier parts the keywords of a text: each stands before it or after
it. -/
theorem hasKeyword_append_cons (name : IsName word) {b : Char} (other : isIdentifier b = false)
    (s t : List Char) :
    hasKeyword word (s ++ b :: t) = true ↔ hasKeyword word s = true ∨ hasKeyword word t = true :=
  occursIn_append_cons (ignores_keyword name other)

/-- A keyword of a text is a keyword of one of its words. -/
theorem hasKeyword_iff_words (name : IsName word) (s : List Char) :
    hasKeyword word s = true ↔ ∃ x ∈ words s, hasKeyword word x = true := by
  have empty : hasKeyword word [] = false := by
    rw [Bool.eq_false_iff]
    intro h
    obtain ⟨a, k, b, hs, spelled, _⟩ := hasKeyword_iff.mp h
    simp only [List.nil_eq, List.append_eq_nil_iff] at hs
    exact ne_nil_of_foldEq name spelled hs.1.2
  induction s using piece_induction isBlank with
  | piece x noBlank =>
      rw [words_of_noBlank noBlank]
      by_cases h : x = []
      · simp [h, empty]
      · simp [h]
  | step x b t noBlank blank ih =>
      have inRest : hasKeyword word t = true ↔ ∃ x ∈ words t, hasKeyword word x = true := ih
      rw [hasKeyword_append_cons name (isIdentifier_of_isBlank blank), inRest,
        words_append_of_noBlank noBlank blank]
      by_cases h : x = []
      · simp [h, empty]
      · simp [h]

theorem hasKeyword_squeeze (name : IsName word) (s : List Char) :
    hasKeyword word (squeeze s) = hasKeyword word s := by
  rw [Bool.eq_iff_iff, hasKeyword_iff_words name, hasKeyword_iff_words name, words_squeeze]

/-! ## the leading verb -/

/-- The leading verb is found exactly if the text begins with its letters, in any case form, and no
character of an identifier follows them. -/
theorem hasLeadingVerb_iff {s : List Char} :
    hasLeadingVerb s = true ↔
      ∃ verb ∈ readingVerbs, ∃ k b, s = k ++ b ∧ FoldEq k verb.toList ∧
        joins b.head? = false := by
  rw [hasLeadingVerb, startsIn_iff]
  simp only [leadingVerb, matches_seq_tokenEnd_iff, matches_oneOf_iff]
  constructor
  · intro h
    obtain ⟨k, b, hs, ⟨verb, hv, spelled⟩, stop⟩ := h
    exact ⟨verb, hv, k, b, hs, spelled, stop⟩
  · intro h
    obtain ⟨verb, hv, k, b, hs, spelled, stop⟩ := h
    exact ⟨k, b, hs, ⟨verb, hv, spelled⟩, stop⟩

theorem eq_of_prefix_verbs : ∀ v ∈ readingVerbs, ∀ w ∈ readingVerbs,
    v.toList.map fold <+: w.toList.map fold → v = w := by
  decide

/-- No case form of a reading verb begins a case form of another one. -/
theorem eq_of_prefix {v w : String} {k l : List Char} (hv : v ∈ readingVerbs)
    (hw : w ∈ readingVerbs) (spelledV : FoldEq k v.toList) (spelledW : FoldEq l w.toList)
    (front : k <+: l) : v = w ∧ k = l := by
  have same : v = w := by
    apply eq_of_prefix_verbs v hv w hw
    rw [← spelledV, ← spelledW]
    exact front.map fold
  subst same
  have length := congrArg List.length (Eq.trans spelledV spelledW.symm)
  simp only [List.length_map] at length
  exact ⟨rfl, front.eq_of_length length⟩

/-- A text begins with a case form of one reading verb at most. -/
theorem eq_of_append_eq {v w : String} {k l b c : List Char} (hv : v ∈ readingVerbs)
    (hw : w ∈ readingVerbs) (spelledV : FoldEq k v.toList) (spelledW : FoldEq l w.toList)
    (parts : k ++ b = l ++ c) : v = w ∧ k = l ∧ b = c := by
  have same : v = w ∧ k = l := by
    obtain ⟨u, rfl, -⟩ | ⟨u, rfl, -⟩ := List.append_eq_append_iff.mp parts
    · exact eq_of_prefix hv hw spelledV spelledW (List.prefix_append k u)
    · obtain ⟨same, pieces⟩ := eq_of_prefix hw hv spelledW spelledV (List.prefix_append l u)
      exact ⟨same.symm, pieces.symm⟩
  exact ⟨same.1, same.2, List.append_cancel_left (same.2 ▸ parts)⟩

/-- A character that joins nothing leads no verb. -/
theorem not_hasLeadingVerb_cons {c : Char} (other : isIdentifier c = false) (s : List Char) :
    hasLeadingVerb (c :: s) = false := by
  rw [Bool.eq_false_iff]
  intro found
  obtain ⟨verb, reading, k, b, hs, spelled, _⟩ := hasLeadingVerb_iff.mp found
  cases k with
  | nil => exact ne_nil_of_foldEq (isName_of_reading verb reading) spelled rfl
  | cons d k =>
      have letter := isIdentifier_of_foldEq (isName_of_reading verb reading) spelled d
        List.mem_cons_self
      rw [← (List.cons.inj hs).1, other] at letter
      contradiction

/-- What follows a blank does not matter for the leading verb. -/
theorem hasLeadingVerb_append {w rest : List Char}
    (ends : rest = [] ∨ ∃ b t, rest = b :: t ∧ isBlank b = true) :
    hasLeadingVerb (w ++ rest) = hasLeadingVerb w := by
  obtain rfl | ⟨b, t, rfl, blank⟩ := ends
  · rw [List.append_nil]
  rw [Bool.eq_iff_iff, hasLeadingVerb_iff, hasLeadingVerb_iff]
  constructor
  · intro h
    obtain ⟨verb, hv, k, c, hs, spelled, stop⟩ := h
    have notIn : b ∉ k := fun hb => by
      rw [not_blank_of_foldEq (isName_of_reading verb hv) spelled b hb] at blank
      contradiction
    obtain ⟨c', rfl, rfl⟩ | ⟨a', ha, _⟩ := piece_of_append_cons (a := []) hs notIn
    · rw [joins_head?_append_cons (isIdentifier_of_isBlank blank)] at stop
      exact ⟨verb, hv, k, c', rfl, spelled, stop⟩
    · simp at ha
  · intro h
    obtain ⟨verb, hv, k, c, rfl, spelled, stop⟩ := h
    refine ⟨verb, hv, k, c ++ b :: t, by simp, spelled, ?_⟩
    rwa [joins_head?_append_cons (isIdentifier_of_isBlank blank)]

/-- The verb that leads the joined words leads the text after its blanks. -/
theorem hasLeadingVerb_squeeze (s : List Char) :
    hasLeadingVerb (squeeze s) = hasLeadingVerb (trimStart s) := by
  obtain ⟨_, hq⟩ | ⟨w, ws, rest, hw, hq, ends⟩ := squeeze_eq_words_head s
  · obtain ⟨_, ht⟩ | ⟨w, ws, rest, hw, _⟩ := trimStart_eq_words_head s
    · rw [hq, ht]
    · simp_all
  · obtain ⟨none, _⟩ | ⟨w', ws', rest', hw', ht, ends'⟩ := trimStart_eq_words_head s
    · simp_all
    · obtain ⟨rfl, rfl⟩ := List.cons.inj (hw.symm.trans hw')
      have blankEnds : rest = [] ∨ ∃ b t, rest = b :: t ∧ isBlank b = true := by
        obtain h | ⟨t, h⟩ := ends
        · exact .inl h
        · exact .inr ⟨' ', t, h, isBlank_space⟩
      rw [hq, ht, hasLeadingVerb_append blankEnds, hasLeadingVerb_append ends']

end QueryGuard.Query
