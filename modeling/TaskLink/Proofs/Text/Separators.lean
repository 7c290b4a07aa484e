import Mathlib.Data.List.Infix
import TaskLink.Log.DebugFlags

/-!
# Texts with separators

Pieces without a separator that are joined by it are told apart again, and a
row of characters without it occurs in the joined text as often as in all
pieces together.
-/

namespace TaskLink

open DebugFlags (splitAtChar)

/-! ## Taking texts apart -/

section Pieces

variable {separator : Char} {piece : List Char} {pieces : List (List Char)}

theorem splitAtChar_of_notMem (whole : separator ∉ piece) :
    splitAtChar separator piece = [piece] := by
  induction piece with
  | nil => rfl
  | cons c others ih =>
      rw [List.mem_cons, not_or] at whole
      rw [splitAtChar, if_neg (by simpa using Ne.symm whole.1), ih whole.2]

/-- What stands before the first separator is the first part. -/
theorem splitAtChar_append (whole : separator ∉ piece) (rest : List Char) :
    splitAtChar separator (piece ++ separator :: rest) = piece :: splitAtChar separator rest := by
  induction piece with
  | nil => simp [splitAtChar]
  | cons c others ih =>
      rw [List.mem_cons, not_or] at whole
      rw [List.cons_append, splitAtChar, if_neg (by simpa using Ne.symm whole.1), ih whole.2]

/-- Pieces that are joined before a text are the first parts. -/
theorem splitAtChar_intercalate (whole : ∀ piece ∈ pieces, separator ∉ piece)
    (last : List Char) :
    splitAtChar separator ([separator].intercalate (pieces ++ [last])) =
      pieces ++ splitAtChar separator last := by
  induction pieces with
  | nil => simp
  | cons first rest ih =>
      rw [List.cons_append, List.intercalate_cons_of_ne_nil (by simp), List.append_assoc,
        List.singleton_append, splitAtChar_append (whole first List.mem_cons_self),
        ih fun piece isIn => whole piece (List.mem_cons_of_mem _ isIn), List.cons_append]

theorem splitAtChar_joined (whole : ∀ piece ∈ pieces, separator ∉ piece) (some : pieces ≠ []) :
    splitAtChar separator ([separator].intercalate pieces) = pieces := by
  obtain rfl | ⟨earlier, last, rfl⟩ := List.eq_nil_or_concat' pieces
  · exact absurd rfl some
  · rw [splitAtChar_intercalate fun piece isIn => whole piece (List.mem_append_left _ isIn),
      splitAtChar_of_notMem (whole last List.mem_concat_self)]

end Pieces

/-! ## Occurrences -/

def occurrences (row text : List Char) : Nat :=
  text.tails.countP fun rest => row.isPrefixOf rest

section Occurrences

variable {row first : List Char} {separator : Char} {rest : List (List Char)}

theorem occurrences_cons (row : List Char) (c : Char) (rest : List Char) :
    occurrences row (c :: rest) =
      occurrences row rest + if row.isPrefixOf (c :: rest) = true then 1 else 0 := by
  rw [occurrences, List.tails_cons, List.countP_cons, ← occurrences]

/-- A row without the separator that begins before a separator ends before it. -/
theorem isPrefixOf_append_cons (whole : separator ∉ row) (text rest : List Char) :
    row.isPrefixOf (text ++ separator :: rest) = row.isPrefixOf text := by
  induction text generalizing row with
  | nil =>
      cases row with
      | nil => rfl
      | cons c others =>
          have different : c ≠ separator := fun same => whole (same ▸ List.mem_cons_self)
          simp [List.isPrefixOf, different]
  | cons d later ih =>
      cases row with
      | nil => rfl
      | cons c others =>
          rw [List.cons_append, List.isPrefixOf, List.isPrefixOf,
            ih fun isIn => whole (List.mem_cons_of_mem _ isIn)]

/-- A row without the separator occurs before a separator or behind it. -/
theorem occurrences_append_cons (whole : separator ∉ row) (begins : row ≠ [])
    (text rest : List Char) :
    occurrences row (text ++ separator :: rest) = occurrences row text + occurrences row rest := by
  induction text with
  | nil =>
      have noPrefix : row.isPrefixOf [] = false := by
        cases row with
        | nil => exact absurd rfl begins
        | cons c others => rfl
      have elsewhere : row.isPrefixOf ([] ++ separator :: rest) = false :=
        (isPrefixOf_append_cons whole [] rest).trans noPrefix
      rw [List.nil_append] at elsewhere ⊢
      rw [occurrences_cons, elsewhere]
      simp [occurrences, noPrefix]
  | cons c later ih =>
      rw [List.cons_append, occurrences_cons, occurrences_cons, ih, ← List.cons_append,
        isPrefixOf_append_cons whole]
      omega

/-- A row that occurs once in each of the pieces joined behind the first occurs once for each. -/
theorem occurrences_joined (whole : separator ∉ row) (begins : row ≠ [])
    (once : ∀ piece ∈ rest, occurrences row piece = 1) :
    occurrences row ([separator].intercalate (first :: rest)) =
      occurrences row first + rest.length := by
  induction rest generalizing first with
  | nil => simp
  | cons second later ih =>
      rw [List.intercalate_cons_cons, List.append_assoc, List.singleton_append,
        occurrences_append_cons whole begins,
        ih fun piece isIn => once piece (List.mem_cons_of_mem _ isIn),
        once second List.mem_cons_self, List.length_cons]
      omega

end Occurrences

end TaskLink
