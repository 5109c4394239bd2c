import Mathlib.Data.List.TakeWhile
import QueryGuard.Proofs.Text.Words

/-!
# QueryGuard.Proofs.Text.Trim

A text without the blanks at its ends.

* `trim_padded` — blanks around a text do not matter for it;
* `exists_padding` — the text is it with blanks around;
* `trim_eq_self` and `fullEnds_trim` — nothing is taken from a text with no blank at an end, and
  none stands there afterwards.
-/

namespace QueryGuard.Text

variable {s t before after : List Char}

/-- No blank stands at an end of a text. -/
structure FullEnds (s : List Char) : Prop where
  first : ∀ c, s.head? = some c → isBlank c = false
  last : ∀ c, s.getLast? = some c → isBlank c = false

theorem allBlank_iff : allBlank s = true ↔ ∀ c ∈ s, isBlank c = true := List.all_eq_true

theorem allBlank_append (hs : allBlank s = true) (ht : allBlank t = true) :
    allBlank (s ++ t) = true := by
  rw [allBlank, List.all_append, ← allBlank, ← allBlank, hs, ht, Bool.and_self]

theorem FullEnds.reverse (full : FullEnds s) : FullEnds s.reverse where
  first c front := full.last c (by rwa [List.head?_reverse] at front)
  last c back := full.first c (by rwa [List.getLast?_reverse] at back)

theorem FullEnds.cons {c : Char} (full : FullEnds s) (front : isBlank c = false) :
    FullEnds (c :: s) where
  first d first := Option.some.inj first ▸ front
  last d last := by
    rw [List.getLast?_cons] at last
    cases ends : s.getLast? with
    | none =>
        rw [ends, Option.getD_none] at last
        exact Option.some.inj last ▸ front
    | some e =>
        rw [ends, Option.getD_some] at last
        exact full.last d (ends.trans last)

/-! ## the start -/

theorem trimStart_append (blank : allBlank before = true) (s : List Char) :
    trimStart (before ++ s) = trimStart s :=
  List.dropWhile_append_of_pos (allBlank_iff.mp blank)

theorem trimStart_eq_nil_iff : trimStart s = [] ↔ allBlank s = true :=
  List.dropWhile_eq_nil_iff.trans allBlank_iff.symm

/-- A trimmed text does not begin with a blank. -/
theorem head?_trimStart {c : Char} (h : (trimStart s).head? = some c) : isBlank c = false := by
  have full := List.head?_dropWhile_not isBlank s
  rw [← trimStart, h] at full
  simpa using full

theorem trimStart_eq_self (full : ∀ c, s.head? = some c → isBlank c = false) :
    trimStart s = s := by
  cases s with
  | nil => rfl
  | cons c s => exact List.dropWhile_cons_of_neg (by simp [full c rfl])

/-- What stands behind a text that is not blank stays behind it. -/
theorem trimStart_append_of_not_allBlank (text : ¬ allBlank s = true) (t : List Char) :
    trimStart (s ++ t) = trimStart s ++ t := by
  rw [← trimStart_eq_nil_iff, ← List.isEmpty_iff, trimStart] at text
  rw [trimStart, List.dropWhile_append, if_neg text, trimStart]

/-! ## both ends -/

/-- Blanks around a text do not matter for it without the blanks at its ends. -/
theorem trim_padded (front : allBlank before = true) (back : allBlank after = true)
    (s : List Char) : trim (before ++ s ++ after) = trim s := by
  rw [trim, List.append_assoc, trimStart_append front]
  by_cases blank : allBlank s = true
  · rw [trimStart_eq_nil_iff.mpr (allBlank_append blank back), trim,
      trimStart_eq_nil_iff.mpr blank]
  · have backwards : allBlank after.reverse = true := by rwa [allBlank, List.all_reverse]
    rw [trimStart_append_of_not_allBlank blank, List.reverse_append, trimStart_append backwards,
      trim]

/-- A text is what trimming leaves of it, with blanks around. -/
theorem exists_padding (s : List Char) :
    ∃ before after, allBlank before = true ∧ allBlank after = true ∧
      s = before ++ trim s ++ after := by
  obtain ⟨after, back, parts⟩ := trim_append s
  refine ⟨s.takeWhile isBlank, after, List.all_takeWhile, allBlank_iff.mpr back, ?_⟩
  rw [List.append_assoc, parts]
  exact List.takeWhile_append_dropWhile.symm

/-- A trimmed text has no blank at its ends. -/
theorem fullEnds_trim (s : List Char) : FullEnds (trim s) where
  first c front := by
    rw [← trimStart_trim] at front
    exact head?_trimStart front
  last c back := by
    rw [trim, List.getLast?_reverse] at back
    exact head?_trimStart back

theorem trim_eq_self (full : FullEnds s) : trim s = s := by
  rw [trim, trimStart_eq_self full.first, trimStart_eq_self full.reverse.first,
    List.reverse_reverse]

/-! ## a change of characters that keeps blanks -/

section Map

variable {f : Char → Char} (keeps : ∀ c, isBlank (f c) = isBlank c)

include keeps

theorem trimStart_map (s : List Char) : trimStart (s.map f) = (trimStart s).map f := by
  have same : isBlank ∘ f = isBlank := funext keeps
  rw [trimStart, List.dropWhile_map, same, trimStart]

theorem trim_map (s : List Char) : trim (s.map f) = (trim s).map f := by
  rw [trim, trimStart_map keeps, ← List.map_reverse, trimStart_map keeps, ← List.map_reverse, trim]

end Map

end QueryGuard.Text
