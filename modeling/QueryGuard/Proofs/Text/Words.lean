import QueryGuard.Proofs.Text.Pieces
import QueryGuard.Text.Blank

/-!
# QueryGuard.Proofs.Text.Words

A text and the copy of it with its words joined by single spaces.

* `words_squeeze` — the copy has the same words;
* `squeeze_append_blank` — it is made of the copies of the parts between which a blank stands;
* `infix_squeeze_iff` and `inOrder_squeeze_iff` — pieces without blanks stand in it as in the text;
* `filter_squeeze` — the copy has the same characters apart from blanks, in the same order;
* `eq_space_of_mem_squeeze` — the only blank in it is the space;
* `squeeze_eq_words_head` — the copy begins with the first word;
* `squeeze_trim` — the blanks at the ends of the text do not matter for it.

A text is taken apart at its blanks by `piece_induction isBlank`: it holds no blank, or it is a
piece without blanks, a blank, and a shorter text.
-/

namespace QueryGuard.Text

variable {s t x : List Char}

/-! ## taking a text apart -/

/-- A property of all texts without parting characters that passes from a text to every text with
one more piece and one more parting character before it holds of all texts. -/
theorem piece_induction (p : Char → Bool) {P : List Char → Prop}
    (piece : ∀ x, (∀ c ∈ x, p c = false) → P x)
    (step : ∀ x b t, (∀ c ∈ x, p c = false) → p b = true → P t → P (x ++ b :: t))
    (s : List Char) : P s := by
  induction hn : s.length using Nat.strongRecOn generalizing s with
  | _ n ih =>
    have front : ∀ c ∈ s.takeWhile (fun c => !p c), p c = false := by
      intro c hc
      simpa using List.all_eq_true.mp List.all_takeWhile c hc
    have parts := List.takeWhile_append_dropWhile (p := fun c => !p c) (l := s)
    cases hd : s.dropWhile (fun c => !p c) with
    | nil =>
        rw [hd, List.append_nil] at parts
        rw [← parts]
        exact piece _ front
    | cons b t =>
        have parting : p b = true := by
          have := List.head?_dropWhile_not (fun c => !p c) s
          rw [hd] at this
          simpa using this
        rw [hd] at parts
        have shorter : t.length < n := by
          rw [← hn, ← parts, List.length_append, List.length_cons]
          omega
        rw [← parts]
        exact step _ b t front parting (ih t.length shorter t rfl)

/-- A text without blanks is one word, or none if it is empty. -/
theorem words_of_noBlank (noBlank : ∀ c ∈ x, isBlank c = false) :
    words x = if x = [] then [] else [x] := by
  rw [words, List.splitOnP_eq_singleton noBlank]
  by_cases h : x = []
  · simp [h]
  · simp [h]

/-- Up to the first blank there is one word. -/
theorem words_append_of_noBlank {b : Char} (noBlank : ∀ c ∈ x, isBlank c = false)
    (blank : isBlank b = true) (t : List Char) :
    words (x ++ b :: t) = if x = [] then words t else x :: words t := by
  rw [words_append_blank blank, words_of_noBlank noBlank]
  by_cases h : x = []
  · simp [h]
  · simp [h]

/-- The code points of the blanks. -/
def blankPoints : List Nat := blankRanges.flatMap fun r => List.range' r.1 (r.2 + 1 - r.1)

theorem toNat_mem_blankPoints {c : Char} (blank : isBlank c = true) : c.toNat ∈ blankPoints := by
  obtain ⟨r, hr, low, high⟩ := inRanges_iff.mp blank
  refine List.mem_flatMap.mpr ⟨r, hr, ?_⟩
  rw [List.mem_range'_1]
  omega

/-- What holds of the code point of every blank holds of every blank. -/
theorem of_isBlank {P : Char → Prop} (h : ∀ n ∈ blankPoints, P (Char.ofNat n)) {c : Char}
    (blank : isBlank c = true) : P c := by
  have found := h c.toNat (toNat_mem_blankPoints blank)
  rwa [Char.ofNat_toNat] at found

/-! ## the words of the copy -/

/-- Words that are joined by spaces are found again. -/
theorem words_intercalate {ws : List (List Char)}
    (h : ∀ w ∈ ws, w ≠ [] ∧ ∀ c ∈ w, isBlank c = false) :
    words ([' '].intercalate ws) = ws := by
  induction ws with
  | nil => exact words_nil
  | cons w ws ih =>
      obtain ⟨full, noBlank⟩ := h w List.mem_cons_self
      have rest := ih fun v hv => h v (List.mem_cons_of_mem w hv)
      cases ws with
      | nil => rw [List.intercalate_singleton, words_of_noBlank noBlank, if_neg full]
      | cons v vs =>
          rw [List.intercalate_cons_cons, List.append_assoc, List.singleton_append,
            words_append_of_noBlank noBlank isBlank_space, if_neg full, rest]

/-- The copy has the same words. -/
theorem words_squeeze (s : List Char) : words (squeeze s) = words s :=
  words_intercalate fun _ hw => mem_words hw

theorem squeeze_squeeze (s : List Char) : squeeze (squeeze s) = squeeze s := by
  rw [squeeze, words_squeeze, ← squeeze.eq_1]

/-- Nothing is joined exactly if there are no words. -/
theorem squeeze_eq_nil_iff : squeeze s = [] ↔ words s = [] := by
  constructor
  · intro empty
    rw [← words_squeeze, empty, words_nil]
  · intro none
    rw [squeeze, none, List.intercalate_nil]

/-- A text without blanks stays as it is. -/
theorem squeeze_of_noBlank (noBlank : ∀ c ∈ x, isBlank c = false) : squeeze x = x := by
  rw [squeeze, words_of_noBlank noBlank]
  by_cases h : x = []
  · simp [h]
  · simp [h, List.intercalate_singleton]

/-! ## the copy of two parts -/

/-- Two texts with a space between them, of which an empty one is left out. -/
def spaced (s t : List Char) : List Char :=
  [' '].intercalate ([s, t].filter fun part => !part.isEmpty)

theorem spaced_cases (s t : List Char) :
    (s = [] ∧ spaced s t = t) ∨ (t = [] ∧ spaced s t = s) ∨ spaced s t = s ++ ' ' :: t := by
  by_cases hs : s = []
  · by_cases ht : t = []
    · simp [spaced, hs, ht]
    · simp [spaced, hs, ht, List.intercalate_singleton]
  · by_cases ht : t = []
    · simp [spaced, hs, ht, List.intercalate_singleton]
    · simp [spaced, hs, ht, List.intercalate_cons_cons]

theorem intercalate_append {ws vs : List (List Char)} (hw : ws ≠ []) (hv : vs ≠ []) :
    [' '].intercalate (ws ++ vs) = [' '].intercalate ws ++ ' ' :: [' '].intercalate vs := by
  induction ws with
  | nil => contradiction
  | cons w ws ih =>
      cases ws with
      | nil =>
          obtain ⟨v, vs, rfl⟩ := List.exists_cons_of_ne_nil hv
          simp [List.intercalate_cons_cons]
      | cons w' ws =>
          rw [List.cons_append, List.cons_append, List.intercalate_cons_cons, ← List.cons_append,
            ih (by simp), List.intercalate_cons_cons]
          simp

/-- The copy of two texts with a blank between them is made of the copies of the two. -/
theorem squeeze_append_blank {b : Char} (blank : isBlank b = true) (s t : List Char) :
    squeeze (s ++ b :: t) = spaced (squeeze s) (squeeze t) := by
  have both : squeeze (s ++ b :: t) = [' '].intercalate (words s ++ words t) := by
    rw [squeeze, words_append_blank blank]
  by_cases hs : squeeze s = []
  · rw [both, squeeze_eq_nil_iff.mp hs, List.nil_append, ← squeeze.eq_1]
    by_cases ht : squeeze t = []
    · simp [spaced, hs, ht]
    · simp [spaced, hs, ht, List.intercalate_singleton]
  · by_cases ht : squeeze t = []
    · rw [both, squeeze_eq_nil_iff.mp ht, List.append_nil, ← squeeze.eq_1]
      simp [spaced, hs, ht, List.intercalate_singleton]
    · rw [both, intercalate_append (mt squeeze_eq_nil_iff.mpr hs) (mt squeeze_eq_nil_iff.mpr ht)]
      simp [spaced, hs, ht, List.intercalate_cons_cons, ← squeeze.eq_1]

/-- Up to the first blank there is one word, which is joined to the others. -/
theorem squeeze_append_of_noBlank {b : Char} (noBlank : ∀ c ∈ x, isBlank c = false)
    (blank : isBlank b = true) (t : List Char) :
    squeeze (x ++ b :: t) = spaced x (squeeze t) := by
  rw [squeeze_append_blank blank, squeeze_of_noBlank noBlank]

/-- The copy is no longer than the text. -/
theorem length_squeeze_le (s : List Char) : (squeeze s).length ≤ s.length := by
  induction s using piece_induction isBlank with
  | piece x noBlank =>
      exact Nat.le_of_eq (congrArg List.length (squeeze_of_noBlank noBlank))
  | step x b t noBlank blank ih =>
      rw [squeeze_append_of_noBlank noBlank blank, List.length_append, List.length_cons]
      obtain ⟨-, same⟩ | ⟨-, same⟩ | same := spaced_cases x (squeeze t)
      · rw [same]
        omega
      · rw [same]
        omega
      · rw [same, List.length_append, List.length_cons]
        omega

/-! ## pieces of the copy -/

/-- A piece of a word. -/
def InWord (k : List Char) : Prop := k ≠ [] ∧ ∀ c ∈ k, isBlank c = false

instance (k : List Char) : Decidable (InWord k) :=
  have := List.decidableBAll (isBlank · = false) k
  inferInstanceAs (Decidable (_ ∧ _))

theorem InWord.notMem {k : List Char} (h : InWord k) {b : Char} (blank : isBlank b = true) :
    b ∉ k := by
  intro mem
  have full := h.2 b mem
  rw [blank] at full
  contradiction

/-- A word lies in one of the texts that are joined. -/
theorem infix_spaced_iff {k : List Char} (hk : InWord k) :
    k <:+: spaced s t ↔ k <:+: s ∨ k <:+: t := by
  obtain ⟨rfl, same⟩ | ⟨rfl, same⟩ | same := spaced_cases s t
  · simp [same, hk.1]
  · simp [same, hk.1]
  · rw [same, infix_append_cons_iff (hk.notMem isBlank_space)]

/-- A piece of a word stands in the copy exactly if it stands in the text. -/
theorem infix_squeeze_iff {k : List Char} (hk : InWord k) (s : List Char) :
    k <:+: squeeze s ↔ k <:+: s := by
  induction s using piece_induction isBlank with
  | piece x noBlank => rw [squeeze_of_noBlank noBlank]
  | step x b t noBlank blank ih =>
      rw [squeeze_append_of_noBlank noBlank blank, infix_spaced_iff hk, ih,
        infix_append_cons_iff (hk.notMem blank)]

theorem not_inOrder_nil {k l : List Char} (hk : InWord k) : ¬ InOrder k l [] := by
  intro h
  obtain ⟨a, c, parts, -⟩ := h
  rw [List.nil_eq, List.append_eq_nil_iff, List.append_eq_nil_iff] at parts
  exact hk.1 parts.1.2

/-- Two words lie in order in one of the texts that are joined, or in one each. -/
theorem inOrder_spaced_iff {k l : List Char} (hk : InWord k) (hl : InWord l) :
    InOrder k l (spaced s t) ↔ InOrder k l s ∨ (k <:+: s ∧ l <:+: t) ∨ InOrder k l t := by
  obtain ⟨rfl, same⟩ | ⟨rfl, same⟩ | same := spaced_cases s t
  · simp [same, hk.1, not_inOrder_nil hk]
  · simp [same, hl.1, not_inOrder_nil hk]
  · rw [same, inOrder_append_cons_iff (hk.notMem isBlank_space) (hl.notMem isBlank_space)]

/-- Of two pieces of words one stands behind the other in the copy exactly if it does in the
text. -/
theorem inOrder_squeeze_iff {k l : List Char} (hk : InWord k) (hl : InWord l) (s : List Char) :
    InOrder k l (squeeze s) ↔ InOrder k l s := by
  induction s using piece_induction isBlank with
  | piece x noBlank => rw [squeeze_of_noBlank noBlank]
  | step x b t noBlank blank ih =>
      rw [squeeze_append_of_noBlank noBlank blank, inOrder_spaced_iff hk hl, ih,
        infix_squeeze_iff hl, inOrder_append_cons_iff (hk.notMem blank) (hl.notMem blank)]

/-! ## the characters of the copy -/

/-- Without its blanks a text is its words. -/
theorem filter_words (s : List Char) :
    s.filter (fun c => !isBlank c) = (words s).flatten := by
  induction s using piece_induction isBlank with
  | piece x noBlank =>
      have kept : x.filter (fun c => !isBlank c) = x :=
        List.filter_eq_self.mpr fun c hc => by simp [noBlank c hc]
      rw [kept, words_of_noBlank noBlank]
      by_cases h : x = []
      · simp [h]
      · simp [h]
  | step x b t noBlank blank ih =>
      have kept : x.filter (fun c => !isBlank c) = x :=
        List.filter_eq_self.mpr fun c hc => by simp [noBlank c hc]
      rw [List.filter_append, kept, List.filter_cons_of_neg (by simp [blank]), ih,
        words_append_of_noBlank noBlank blank]
      by_cases h : x = []
      · simp [h]
      · simp [h]

/-- The copy has the same characters apart from blanks, in the same order. -/
theorem filter_squeeze (s : List Char) :
    (squeeze s).filter (fun c => !isBlank c) = s.filter (fun c => !isBlank c) := by
  rw [filter_words, filter_words, words_squeeze]

theorem mem_of_mem_intercalate {sep : List Char} {ws : List (List Char)} {c : Char}
    (h : c ∈ sep.intercalate ws) : c ∈ sep ∨ ∃ w ∈ ws, c ∈ w := by
  induction ws with
  | nil => simp at h
  | cons w ws ih =>
      cases ws with
      | nil => exact .inr ⟨w, by simp, by simpa using h⟩
      | cons v vs =>
          simp only [List.intercalate_cons_cons, List.mem_append] at h
          obtain (inWord | inSep) | later := h
          · exact .inr ⟨w, by simp, inWord⟩
          · exact .inl inSep
          · refine (ih later).imp_right fun found => ?_
            obtain ⟨x, hx, inside⟩ := found
            exact ⟨x, List.mem_cons_of_mem w hx, inside⟩

/-- The only blank in the copy is the space. -/
theorem eq_space_of_mem_squeeze {c : Char} (h : c ∈ squeeze s) (blank : isBlank c = true) :
    c = ' ' := by
  obtain space | ⟨w, hw, inside⟩ := mem_of_mem_intercalate h
  · exact List.mem_singleton.mp space
  · have full := (mem_words hw).2 c inside
    rw [blank] at full
    contradiction

/-! ## the front of the copy -/

/-- Without the blanks it begins with, a text is empty or begins with its first word, after which
it ends or goes on with a blank. -/
theorem trimStart_eq_words_head (s : List Char) :
    (words s = [] ∧ trimStart s = []) ∨
      ∃ w ws rest, words s = w :: ws ∧ trimStart s = w ++ rest ∧
        (rest = [] ∨ ∃ b t, rest = b :: t ∧ isBlank b = true) := by
  induction s using piece_induction isBlank with
  | piece x noBlank =>
      have trimmed : trimStart x = x := by
        cases x with
        | nil => rfl
        | cons c x => exact List.dropWhile_cons_of_neg (by simp [noBlank c List.mem_cons_self])
      rw [trimmed, words_of_noBlank noBlank]
      by_cases h : x = []
      · exact .inl (by simp [h])
      · exact .inr ⟨x, [], [], by simp [h], by simp, .inl rfl⟩
  | step x b t noBlank blank ih =>
      rw [words_append_of_noBlank noBlank blank]
      cases x with
      | nil =>
          have trimmed : trimStart ([] ++ b :: t) = trimStart t :=
            List.dropWhile_cons_of_pos blank
          rw [trimmed, if_pos rfl]
          exact ih
      | cons c x =>
          have trimmed : trimStart (c :: x ++ b :: t) = c :: x ++ b :: t :=
            List.dropWhile_cons_of_neg (by simp [noBlank c List.mem_cons_self])
          rw [trimmed, if_neg (by simp)]
          exact .inr ⟨c :: x, words t, b :: t, rfl, rfl, .inr ⟨b, t, rfl, blank⟩⟩

/-- The copy is empty or begins with the first word, after which it ends or goes on with a
space. -/
theorem squeeze_eq_words_head (s : List Char) :
    (words s = [] ∧ squeeze s = []) ∨
      ∃ w ws rest, words s = w :: ws ∧ squeeze s = w ++ rest ∧
        (rest = [] ∨ ∃ t, rest = ' ' :: t) := by
  rw [squeeze]
  cases hs : words s with
  | nil => exact .inl ⟨rfl, rfl⟩
  | cons w ws =>
      cases ws with
      | nil => exact .inr ⟨w, [], [], rfl, by simp [List.intercalate_singleton], .inl rfl⟩
      | cons v vs =>
          refine .inr ⟨w, v :: vs, ' ' :: [' '].intercalate (v :: vs), rfl, ?_, .inr ⟨_, rfl⟩⟩
          rw [List.intercalate_cons_cons, List.append_assoc, List.singleton_append]

/-! ## the ends of a text -/

theorem trimStart_cons {b : Char} (blank : isBlank b = true) (s : List Char) :
    trimStart (b :: s) = trimStart s := List.dropWhile_cons_of_pos blank

theorem words_cons_blank {b : Char} (blank : isBlank b = true) (s : List Char) :
    words (b :: s) = words s := words_append_blank blank [] s

/-- A blank text has no words. -/
theorem words_of_allBlank (blank : ∀ b ∈ s, isBlank b = true) : words s = [] := by
  induction s with
  | nil => exact words_nil
  | cons b s ih =>
      have rest := ih fun c hc => blank c (List.mem_cons_of_mem b hc)
      rw [words_cons_blank (blank b List.mem_cons_self), rest]

/-- Blanks at the end make no word. -/
theorem words_append_of_allBlank (s : List Char) {bs : List Char}
    (blank : ∀ b ∈ bs, isBlank b = true) : words (s ++ bs) = words s := by
  cases bs with
  | nil => rw [List.append_nil]
  | cons b bs =>
      have rest := words_of_allBlank fun c hc => blank c (List.mem_cons_of_mem b hc)
      rw [words_append_blank (blank b List.mem_cons_self), rest, List.append_nil]

theorem words_trimStart (s : List Char) : words (trimStart s) = words s := by
  induction s with
  | nil => rfl
  | cons c s ih =>
      by_cases blank : isBlank c = true
      · rw [trimStart_cons blank, ih, words_cons_blank blank]
      · rw [trimStart, List.dropWhile_cons_of_neg blank]

/-- The blanks at the end of a text are what trimming takes from its end. -/
theorem trim_append (s : List Char) :
    ∃ bs, (∀ b ∈ bs, isBlank b = true) ∧ trim s ++ bs = trimStart s := by
  refine ⟨((trimStart s).reverse.takeWhile isBlank).reverse, ?_, ?_⟩
  · intro b hb
    exact List.all_eq_true.mp List.all_takeWhile b (List.mem_reverse.mp hb)
  · have ends := List.takeWhile_append_dropWhile (p := isBlank) (l := (trimStart s).reverse)
    rw [trim, ← List.reverse_append, trimStart.eq_1 (trimStart s).reverse, ends,
      List.reverse_reverse]

theorem words_trim (s : List Char) : words (trim s) = words s := by
  obtain ⟨bs, blank, parts⟩ := trim_append s
  rw [← words_trimStart s, ← parts, words_append_of_allBlank (trim s) blank]

/-- The blanks at the ends of a text do not matter for the copy. -/
theorem squeeze_trim (s : List Char) : squeeze (trim s) = squeeze s := by
  rw [squeeze, words_trim, squeeze]

theorem trimStart_trim (s : List Char) : trimStart (trim s) = trim s := by
  obtain ⟨bs, _, parts⟩ := trim_append s
  cases front : trim s with
  | nil => rfl
  | cons c t =>
      have first : (trimStart s).head? = some c := by
        rw [← parts, front, List.cons_append, List.head?_cons]
      have full := List.head?_dropWhile_not isBlank s
      rw [← trimStart, first] at full
      exact List.dropWhile_cons_of_neg (by simpa using full)

end QueryGuard.Text
