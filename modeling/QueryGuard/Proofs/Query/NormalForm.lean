import QueryGuard.Proofs.Query.Seam
import QueryGuard.Proofs.Text.Trim

/-!
# QueryGuard.Proofs.Query.NormalForm

The form of the cleaned copy of a query.

The copy is *squeezed*: spaces are the only blanks in it, it neither begins nor ends with one, and
no two stand beside each other (`squeezed_squeeze`).  Its words are told from the left by `Worded`,
which does not mention how the words of a text are found (`worded_iff`).  The copy holds nothing
that the query does not hold (`clean_normal_form`).
-/

namespace QueryGuard.Text

variable {s t x : List Char}

/-! ## squeezed texts -/

/-- A text whose words stand one space apart. -/
structure Squeezed (s : List Char) : Prop where
  spaces : ∀ c ∈ s, isBlank c = true → c = ' '
  ends : FullEnds s
  single : ¬ [' ', ' '] <:+: s

/-- A pair lies in one of two texts or across their border. -/
theorem pair_infix_append_iff {c d : Char} :
    ∀ {s t : List Char}, [c, d] <:+: s ++ t ↔
      [c, d] <:+: s ∨ (s.getLast? = some c ∧ t.head? = some d) ∨ [c, d] <:+: t
  | [], t => by simp
  | [e], t => by
      rw [List.singleton_append, pair_infix_cons_iff, pair_infix_cons_iff]
      simp
  | e :: f :: s, t => by
      rw [List.cons_append, pair_infix_cons_iff, pair_infix_append_iff (s := f :: s),
        pair_infix_cons_iff (s := f :: s)]
      simp [or_assoc]

/-- A text without blanks is squeezed. -/
theorem Squeezed.of_noBlank (noBlank : ∀ c ∈ x, isBlank c = false) : Squeezed x where
  spaces c hc blank := by simp [noBlank c hc] at blank
  ends := ⟨fun c front => noBlank c (List.mem_of_head? front),
    fun c back => noBlank c (List.mem_of_getLast? back)⟩
  single pair := by simpa [isBlank_space] using noBlank ' ' (pair.subset (by simp))

/-- Squeezed texts with a space between them are squeezed. -/
theorem Squeezed.append_space (hs : Squeezed s) (ht : Squeezed t) (someS : s ≠ [])
    (someT : t ≠ []) : Squeezed (s ++ ' ' :: t) where
  spaces c hc blank := by
    rw [List.mem_append, List.mem_cons] at hc
    obtain inS | rfl | inT := hc
    · exact hs.spaces c inS blank
    · rfl
    · exact ht.spaces c inT blank
  ends := by
    obtain ⟨d, t, rfl⟩ := List.exists_cons_of_ne_nil someT
    refine ⟨fun c front => hs.ends.first c ?_, fun c back => ht.ends.last c ?_⟩
    · rwa [List.head?_append_of_ne_nil s someS] at front
    · simpa [List.getLast?_append, List.getLast?_cons] using back
  single pair := by
    rw [pair_infix_append_iff, pair_infix_cons_iff] at pair
    obtain inS | ⟨back, -⟩ | ⟨-, front⟩ | inT := pair
    · exact hs.single inS
    · simpa [isBlank_space] using hs.ends.last ' ' back
    · simpa [isBlank_space] using ht.ends.first ' ' front
    · exact ht.single inT

/-- Squeezed texts that are joined as words are squeezed. -/
theorem Squeezed.spaced (hs : Squeezed s) (ht : Squeezed t) : Squeezed (spaced s t) := by
  by_cases someS : s = []
  · by_cases someT : t = []
    · simpa [Text.spaced, someS, someT] using hs
    · simpa [Text.spaced, someS, someT, List.intercalate_singleton] using ht
  · by_cases someT : t = []
    · simpa [Text.spaced, someS, someT, List.intercalate_singleton] using hs
    · simpa [Text.spaced, someS, someT, List.intercalate_cons_cons] using
        hs.append_space ht someS someT

/-- Joined words are squeezed. -/
theorem squeezed_squeeze (s : List Char) : Squeezed (squeeze s) := by
  induction s using piece_induction isBlank with
  | piece x noBlank => exact (squeeze_of_noBlank noBlank).symm ▸ .of_noBlank noBlank
  | step x b t noBlank blank ih =>
      rw [squeeze_append_of_noBlank noBlank blank]
      exact (Squeezed.of_noBlank noBlank).spaced ih

/-! ## words -/

/-- The words of a text from the left: blanks, then a word that goes on to a blank or to the end,
then the words of what follows it. -/
inductive Worded : List Char → List (List Char) → Prop
  | blank {s : List Char} (blank : allBlank s = true) : Worded s []
  | word {before w rest : List Char} {ws : List (List Char)} (blank : allBlank before = true)
      (some_ : w ≠ []) (noBlank : ∀ c ∈ w, isBlank c = false)
      (ends : ∀ c, rest.head? = some c → isBlank c = true) (later : Worded rest ws) :
      Worded (before ++ w ++ rest) (w :: ws)

/-- A blank in front does not change the words. -/
theorem Worded.cons_blank {b : Char} {ws : List (List Char)} (front : isBlank b = true)
    (worded : Worded s ws) : Worded (b :: s) ws := by
  cases worded with
  | blank blank => exact .blank (by simpa [allBlank, front] using blank)
  | @word before w rest ws blank some_ noBlank ends later =>
      have padded : allBlank (b :: before) = true := by simpa [allBlank, front] using blank
      exact .word padded some_ noBlank ends later

/-- A text is made of its words. -/
theorem worded_words (s : List Char) : Worded s (words s) := by
  have last (x : List Char) (noBlank : ∀ c ∈ x, isBlank c = false) (some_ : x ≠ []) :
      Worded x [x] := by
    simpa using @Worded.word [] x [] [] rfl some_ noBlank (by simp) (.blank rfl)
  induction s using piece_induction isBlank with
  | piece x noBlank =>
      rw [words_of_noBlank noBlank]
      split
      · next none => exact none ▸ .blank rfl
      · next some_ => exact last x noBlank some_
  | step x b t noBlank blank ih =>
      rw [words_append_of_noBlank noBlank blank]
      split
      · next none => exact none ▸ ih.cons_blank blank
      · next some_ =>
        simpa using @Worded.word [] x (b :: t) (words t) rfl some_ noBlank (by simpa using blank)
          (ih.cons_blank blank)

/-- What a text is made of are its words. -/
theorem words_eq_of_worded {ws : List (List Char)} (h : Worded s ws) : words s = ws := by
  induction h with
  | blank blank => exact words_of_allBlank (allBlank_iff.mp blank)
  | @word before w rest ws blank some_ noBlank ends later ih =>
      rw [← words_trimStart, List.append_assoc, trimStart_append blank, words_trimStart]
      cases rest with
      | nil =>
          rw [List.append_nil, words_of_noBlank noBlank, if_neg some_, ← ih, words_nil]
      | cons b rest =>
          have parting := ends b rfl
          rw [words_append_of_noBlank noBlank parting, if_neg some_, ← ih,
            words_cons_blank parting]

theorem worded_iff {ws : List (List Char)} : Worded s ws ↔ words s = ws :=
  ⟨words_eq_of_worded, fun same => same ▸ worded_words s⟩

end QueryGuard.Text

namespace QueryGuard.Query

open Text

/-- Nothing is removed as a block comment from a text in which none opens. -/
theorem clean_of_noOpen {query : List Char} (noOpen : ¬ ['/', '*'] <:+: dropLineComments query) :
    clean query = squeeze (dropLineComments query) := by
  have free : Uncommented (dropLineComments query) :=
    ⟨not_infix_dropLineComments query, fun block => noOpen block.infix⟩
  rw [clean, dropBlockComments_of_uncommented free]

/-- **The copy of a query is in a normal form**: spaces are the only blanks in it, none stands at an
end of it and no two beside each other; and its other characters stand in the query in the same
order.  No `--` is left by the removal of line comments, and if no `/*` is left either, then the
copy is made of the words of what is left, one space between each two of them. -/
theorem clean_normal_form (query : List Char) :
    (∀ c ∈ clean query, isBlank c = true → c = ' ') ∧
      ((clean query).head? ≠ some ' ' ∧ (clean query).getLast? ≠ some ' ') ∧
      ¬ [' ', ' '] <:+: clean query ∧
      ((clean query).filter fun c => !isBlank c).Sublist query ∧
      ¬ ['-', '-'] <:+: dropLineComments query ∧
      (¬ ['/', '*'] <:+: dropLineComments query →
        ∃ ws, (∀ vs, Worded (dropLineComments query) vs ↔ vs = ws) ∧
          clean query = [' '].intercalate ws) := by
  have squeezed : Squeezed (clean query) := squeezed_squeeze _
  refine ⟨squeezed.spaces, ⟨fun front => ?_, fun back => ?_⟩, squeezed.single, ?_,
    not_infix_dropLineComments query, ?_⟩
  · simpa [isBlank_space] using squeezed.ends.first ' ' front
  · simpa [isBlank_space] using squeezed.ends.last ' ' back
  · rw [clean, filter_squeeze]
    exact List.filter_sublist.trans
      ((dropBlockComments_sublist _).trans (dropLineComments_sublist query))
  · intro noOpen
    refine ⟨words (dropLineComments query), fun vs => ?_, clean_of_noOpen noOpen⟩
    rw [worded_iff, eq_comm]

end QueryGuard.Query
