import QueryGuard.Proofs.Text.Decimal
import QueryGuard.Proofs.Text.Grouped
import QueryGuard.Reading.Bounded

/-!
# QueryGuard.Proofs.Reading.Note

The note on rows left out tells both numbers, and no two pairs of numbers share a note.

The numbers hold no space and the words around them do, so a reader finds them as the third and the
seventh piece between the spaces (`noteNumbers?`).
-/

namespace QueryGuard

open Text Grouped

/-- Reads back the two numbers of a note on rows left out. -/
def noteNumbers? (note : String) : Option (Int × Int) :=
  match note.toList.splitOn ' ' with
  | [_, _, total, _, _, _, limit] => some (toInt total, toInt limit)
  | _ => none

/-- The sentence on rows left out, piece by piece between the spaces. -/
theorem splitOn_truncationSentence (total limit : Int) :
    (truncationSentence total limit).toList.splitOn ' ' =
      ["Query".toList, "returned".toList, ofInt total, "records,".toList, "limited".toList,
        "to".toList, ofInt limit] := by
  have text : (truncationSentence total limit).toList = [' '].intercalate
      ["Query".toList, "returned".toList, ofInt total, "records,".toList, "limited".toList,
        "to".toList, ofInt limit] := by
    have before : "Query returned ".toList =
        "Query".toList ++ ' ' :: "returned".toList ++ [' '] := by decide
    have between : " records, limited to ".toList =
        ' ' :: "records,".toList ++ ' ' :: "limited".toList ++ ' ' :: "to".toList ++ [' '] := by
      decide
    unfold truncationSentence
    simp only [String.toList_append, String.toList_ofList, before, between,
      List.intercalate_cons_cons, List.intercalate_singleton, List.append_assoc, List.cons_append,
      List.nil_append]
  rw [text]
  apply List.splitOn_intercalate
  · have first := (isGrouped_ofInt total).notMem_space
    have second := (isGrouped_ofInt limit).notMem_space
    simp [first, second]
  · simp

/-- Both numbers are read back from the sentence on rows left out. -/
theorem noteNumbers?_truncationSentence (total limit : Int) :
    noteNumbers? (truncationSentence total limit) = some (total, limit) := by
  simp [noteNumbers?, splitOn_truncationSentence, toInt_ofInt]

/-- A note is made of two numbers exactly if both can be written. -/
theorem truncationText_eq_ok_iff {total limit : Int} {text : String} :
    truncationText total limit = .ok text ↔
      (Decimal.IsWritable total ∧ Decimal.IsWritable limit) ∧
        text = truncationSentence total limit := by
  unfold truncationText
  split
  · next writable => simp [writable, eq_comm]
  · next unwritable => simp [unwritable]

/-- **The note on rows left out is faithful.**  Two numbers have a note exactly if neither has more
than 4300 digits.  The note gives both numbers in groups of three digits, which are the plain
decimal texts once the commas are deleted; both can be read back from it, and so two different pairs
of numbers never have the same note. -/
theorem truncationText_faithful (total limit : Int) :
    ((∃ text, truncationText total limit = .ok text) ↔
      (Nat.toDigits 10 total.natAbs).length ≤ 4300 ∧
        (Nat.toDigits 10 limit.natAbs).length ≤ 4300) ∧
    (∀ fault, truncationText total limit = .error fault → fault = Decimal.tooLong) ∧
    ∀ text, truncationText total limit = .ok text →
      (∃ s t, text =
          "Query returned " ++ String.ofList s ++ " records, limited to " ++ String.ofList t ∧
        (IsGrouped s ∧ String.ofList (s.filter (· != ',')) = total.repr) ∧
        (IsGrouped t ∧ String.ofList (t.filter (· != ',')) = limit.repr)) ∧
      noteNumbers? text = some (total, limit) ∧
      ∀ total' limit', truncationText total' limit' = .ok text →
        total' = total ∧ limit' = limit := by
  have plain (n : Int) : String.ofList ((ofInt n).filter (· != ',')) = n.repr := by
    rw [filter_ofInt, String.ofList_toList]
  refine ⟨?_, ?_, ?_⟩
  · rw [← Decimal.isWritable_iff, ← Decimal.isWritable_iff]
    simp only [truncationText_eq_ok_iff, exists_and_left, exists_eq, and_true]
  · intro fault raised
    unfold truncationText at raised
    split at raised
    · cases raised
    · cases raised
      rfl
  · intro text made
    obtain ⟨-, rfl⟩ := truncationText_eq_ok_iff.mp made
    refine ⟨⟨ofInt total, ofInt limit, rfl, ⟨isGrouped_ofInt total, plain total⟩,
      isGrouped_ofInt limit, plain limit⟩, noteNumbers?_truncationSentence total limit, ?_⟩
    intro total' limit' made'
    obtain ⟨-, same⟩ := truncationText_eq_ok_iff.mp made'
    have read := noteNumbers?_truncationSentence total limit
    rw [same, noteNumbers?_truncationSentence] at read
    simpa using read

end QueryGuard
