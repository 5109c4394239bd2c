import QueryGuard.Pattern.Search
import QueryGuard.Proofs.Text.CaseForms

/-!
# QueryGuard.Proofs.Pattern.CaseBlind

Patterns do not see letter case: a pattern describes a piece of a text exactly if it describes the
same piece of the folded text (`occursIn_fold`, `startsIn_fold`).

This rests on the classes of characters, each of which has a character exactly if it has its fold
(`CharClass.has_fold`).  The search looks at characters only through these classes, and so keeps the
same patterns at every position of the two texts.
-/

namespace QueryGuard

open Text

/-! ## classes of characters -/

/-- A class holds a character exactly if it holds the folded one. -/
theorem CharClass.has_fold (k : CharClass) (c : Char) : k.has (fold c) = k.has c := by
  cases k with
  | letter d => simp only [has, fold_fold]
  | blank => exact isBlank_fold c
  | word => exact isWord_fold c
  | identifier => exact isIdentifier_fold c
  | notNewline =>
      have newline : NoLetter '\n' := by decide
      simp only [has, bne, Bool.not_inj_iff]
      rw [Bool.eq_iff_iff, beq_iff_eq, beq_iff_eq, fold_eq_iff newline]
  | any => rfl

/-- A class holds what is beside exactly if it holds it folded. -/
theorem CharClass.hasAt_fold (k : CharClass) (c? : Option Char) :
    k.hasAt (c?.map fold) = k.hasAt c? := by
  cases c? with
  | none => rfl
  | some c => exact k.has_fold c

namespace Pattern

/-! ## the search -/

/-- Folding what is beside does not change whether the empty piece is described. -/
theorem describesEmpty_fold (prev next : Option Char) (p : Pattern) :
    describesEmpty (prev.map fold) (next.map fold) p = describesEmpty prev next p := by
  induction p with
  | never | empty | one _ | many _ _ => rfl
  | seq p q ihp ihq => rw [describesEmpty, ihp, ihq, describesEmpty]
  | alt p q ihp ihq => rw [describesEmpty, ihp, ihq, describesEmpty]
  | unlessAfter k | unlessBefore k => simp only [describesEmpty, CharClass.hasAt_fold]
  | edge => simp only [describesEmpty, CharClass.hasAt_fold]

theorem any_describesEmpty_fold (prev next : Option Char) (live : List Pattern) :
    live.any (describesEmpty (prev.map fold) (next.map fold)) =
      live.any (describesEmpty prev next) := by
  rw [show describesEmpty (prev.map fold) (next.map fold) = describesEmpty prev next from
    funext (describesEmpty_fold prev next)]

/-- Folding does not change what is left of a pattern. -/
theorem residues_fold (prev : Option Char) (c : Char) (p : Pattern) :
    residues (prev.map fold) (fold c) p = residues prev c p := by
  induction p with
  | never | empty | unlessAfter _ | unlessBefore _ | edge => rfl
  | one k => rw [residues, CharClass.has_fold, residues]
  | seq p q ihp ihq =>
      have skip := describesEmpty_fold prev (some c) p
      rw [Option.map_some] at skip
      rw [residues, ihp, ihq, skip, residues]
  | alt p q ihp ihq => rw [residues, ihp, ihq, residues]
  | many p ih => rw [residues, ih, residues]

/-- Folding does not change what is left of several patterns. -/
theorem advance_fold (prev : Option Char) (c : Char) (live : List Pattern) :
    advance (prev.map fold) (fold c) live = advance prev c live := by
  rw [advance, show residues (prev.map fold) (fold c) = residues prev c from
    funext (residues_fold prev c), advance]

/-- Folding does not change whether a piece begins. -/
theorem completes_fold (live : List Pattern) (prev : Option Char) (s : List Char) :
    completes live (prev.map fold) (s.map fold) = completes live prev s := by
  induction s generalizing live prev with
  | nil => exact any_describesEmpty_fold prev none live
  | cons c cs ih =>
      have here := any_describesEmpty_fold prev (some c) live
      have later := ih (advance prev c live) (some c)
      rw [Option.map_some] at here later
      rw [List.map_cons, completes, here, advance_fold, later, completes]

/-- Folding does not change whether a piece is found. -/
theorem searchFrom_fold (p : Pattern) (live : List Pattern) (prev : Option Char) (s : List Char) :
    searchFrom p live (prev.map fold) (s.map fold) = searchFrom p live prev s := by
  induction s generalizing live prev with
  | nil => exact any_describesEmpty_fold prev none (p :: live)
  | cons c cs ih =>
      have here := any_describesEmpty_fold prev (some c) (p :: live)
      have later := ih (advance prev c (p :: live)) (some c)
      rw [Option.map_some] at here later
      rw [List.map_cons, searchFrom, here, advance_fold, later, searchFrom]

/-- A pattern occurs in a text exactly if it occurs in the folded text. -/
theorem occursIn_fold (p : Pattern) (s : List Char) : p.occursIn (s.map fold) = p.occursIn s :=
  searchFrom_fold p [] none s

/-- A pattern describes a piece at the start of a text exactly if it does in the folded text. -/
theorem startsIn_fold (p : Pattern) (s : List Char) : p.startsIn (s.map fold) = p.startsIn s :=
  completes_fold [p] none s

end Pattern

end QueryGuard
