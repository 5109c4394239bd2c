import QueryGuard.Proofs.Query.Segment
import QueryGuard.Proofs.Query.Token
import QueryGuard.Query.Clean

/-!
# QueryGuard.Proofs.Query.EngineText

What the engine reads of a query: its text with each comment read as a space, and the tokens in it,
which are told apart by ASCII letters, digits and underscores alone.

The scan knows no quotes, so it tells what the engine reads only of a text that is `QuoteFree`.
-/

namespace QueryGuard.Query

open Text

/-- The text that the engine reads: each comment of a query counts as one space. -/
def engineText (query : List Char) : List Char := (segments query).map Segment.shown

/-- A text without the characters that open quoted text. -/
def QuoteFree (query : List Char) : Prop := ∀ c ∈ query, c ∉ ['\'', '\x22', '\x60', '[']

instance (query : List Char) : Decidable (QuoteFree query) := List.decidableBAll _ query

/-! ## tokens of the engine -/

/-- Whether a name of ASCII letters, digits and underscores goes on at one side of a position. -/
def asciiJoins : Option Char → Bool
  | some c => c.isAlphanum || c == '_'
  | none => false

/-- A word written in small and capital ASCII letters. -/
def Spells (word : String) (k : List Char) : Prop :=
  k.map Char.toLower = word.toList.map Char.toLower

instance (word : String) (k : List Char) : Decidable (Spells word k) :=
  inferInstanceAs (Decidable (_ = _))

/-- A word that stands in a text, in any ASCII letter case, with no ASCII letter, digit or
underscore beside it. -/
def IsToken (word : String) (s : List Char) : Prop :=
  ∃ a k b, s = a ++ k ++ b ∧ Spells word k ∧
    asciiJoins a.getLast? = false ∧ asciiJoins b.head? = false

/-- A text that begins with a reading verb after any blanks. -/
def BeginsRead (s : List Char) : Prop :=
  ∃ verb ∈ readingVerbs, ∃ k b, trimStart s = k ++ b ∧ Spells verb k ∧ asciiJoins b.head? = false

/-- A text of one statement, which begins with a reading verb. -/
def IsSingleRead (s : List Char) : Prop := BeginsRead s ∧ (statements s).length = 1

/-! ## the engine's letters and the gate's -/

theorem fold_toLower (c : Char) : fold c.toLower = fold c :=
  apply_toLower (by decide +kernel) c

/-- A text that spells a word in ASCII case is folded to it. -/
theorem foldEq_of_spells {word : String} {k : List Char} (h : Spells word k) :
    FoldEq k word.toList := by
  have folded := congrArg (List.map fold) h
  simp only [List.map_map, Function.comp_def, fold_toLower] at folded
  exact folded

theorem isIdentifier_of_asciiJoins {c : Char} (h : asciiJoins (some c) = true) :
    isIdentifier c = true := by
  induction c using fold_induction with
  | fixed c _ same =>
      rw [isIdentifier, same]
      exact h
  | forms n listed => revert n; decide +kernel

/-- The ASCII letters differ from their case forms as small and capital letters do. -/
theorem fold_of_asciiJoins {c : Char} (h : asciiJoins (some c) = true) : fold c = c.toLower := by
  induction c using fold_induction with
  | fixed c same fixed => rw [fixed, same]
  | forms n listed => revert n; decide +kernel

/-- Among ASCII names, folding to a word is spelling it in ASCII case. -/
theorem spells_of_foldEq {word : String} {k : List Char}
    (asciiWord : ∀ c ∈ word.toList, asciiJoins (some c) = true)
    (asciiPiece : ∀ c ∈ k, asciiJoins (some c) = true) (h : FoldEq k word.toList) :
    Spells word k := by
  have lower : ∀ s : List Char, (∀ c ∈ s, asciiJoins (some c) = true) →
      s.map fold = s.map Char.toLower :=
    fun s ascii => List.map_congr_left fun c hc => fold_of_asciiJoins (ascii c hc)
  rw [Spells, ← lower k asciiPiece, ← lower word.toList asciiWord]
  exact h

/-! ## pieces of the engine's text -/

theorem map_shown_map_char (s : List Char) : (s.map Segment.char).map Segment.shown = s := by
  rw [List.map_map]
  exact List.map_id s

/-- What the engine reads of segments begins with a text without spaces only where that text stands
outside of all comments. -/
theorem eq_append_of_map_shown {ss : List Segment} {k b : List Char}
    (h : ss.map Segment.shown = k ++ b) (noSpace : ' ' ∉ k) :
    ∃ qs, ss = k.map .char ++ qs ∧ b = qs.map Segment.shown := by
  obtain ⟨ks, qs, rfl, hk, hb⟩ := List.map_eq_append_iff.mp h
  have chars : ks = k.map .char := by
    rw [← hk, List.map_map]
    refine (List.map_id ks).symm.trans (List.map_congr_left fun p hp => ?_)
    have shownIn : p.shown ∈ k := hk ▸ List.mem_map_of_mem hp
    cases p with
    | char c => rfl
    | line _ => exact absurd shownIn noSpace
    | block _ => exact absurd shownIn noSpace
    | unclosed _ => exact absurd shownIn noSpace
  exact ⟨qs, by rw [chars], hb.symm⟩

/-- A piece without spaces of what the engine reads stands outside of all comments. -/
theorem engineText_eq_append {query a k b : List Char} (h : engineText query = a ++ k ++ b)
    (noSpace : ' ' ∉ k) :
    ∃ ps qs, segments query = ps ++ k.map .char ++ qs ∧
      a = ps.map Segment.shown ∧ b = qs.map Segment.shown := by
  rw [engineText, List.append_assoc, List.map_eq_append_iff] at h
  obtain ⟨ps, rest, split, ha, hrest⟩ := h
  obtain ⟨qs, rfl, hb⟩ := eq_append_of_map_shown hrest noSpace
  exact ⟨ps, qs, by rw [split, List.append_assoc], ha.symm, hb⟩

end QueryGuard.Query
