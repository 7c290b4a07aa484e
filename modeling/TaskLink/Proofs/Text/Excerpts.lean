import Mathlib.Data.List.Infix
import TaskLink.Text.Excerpt
import TaskLink.Text.Utf8

/-!
# Excerpts

What an excerpt keeps of a long text is its longest start that fits.  That
start ends at the last character boundary within the budget, and a walk back
from the budget comes to it in three steps at most.
-/

namespace TaskLink

/-! ## What fits -/

section Fitting

variable {room : Nat} {text start : List Char}

theorem charBytes_append (text rest : List Char) :
    charBytes (text ++ rest) = charBytes text + charBytes rest := by
  induction text with
  | nil => rw [List.nil_append, charBytes, Nat.zero_add]
  | cons c later ih => rw [List.cons_append, charBytes, charBytes, ih, Nat.add_assoc]

theorem utf8ByteSize_ofList (text : List Char) :
    (String.ofList text).utf8ByteSize = charBytes text := by
  induction text with
  | nil => rfl
  | cons c rest ih =>
      rw [String.ofList_cons, String.utf8ByteSize_append, String.utf8ByteSize_singleton, ih,
        charBytes]

theorem charBytes_toList (text : String) : charBytes text.toList = text.utf8ByteSize := by
  rw [← utf8ByteSize_ofList, String.ofList_toList]

theorem charBytes_le_of_isPrefix (isStart : start <+: text) : charBytes start ≤ charBytes text := by
  obtain ⟨rest, rfl⟩ := isStart
  rw [charBytes_append]
  exact Nat.le_add_right _ _

/-- A start of the text for which there is room is a start of what fits. -/
theorem isPrefix_fitting (isStart : start <+: text) (fits : charBytes start ≤ room) :
    start <+: fitting room text := by
  induction text generalizing room start with
  | nil => exact isStart
  | cons c rest ih =>
      cases start with
      | nil => exact List.nil_prefix
      | cons d later =>
          obtain ⟨rfl, isLater⟩ := List.cons_prefix_cons.mp isStart
          rw [charBytes] at fits
          rw [fitting, if_pos (by omega)]
          exact List.cons_prefix_cons.mpr ⟨rfl, ih isLater (by omega)⟩

/-- Of a text that is too long so much fits that at most three bytes are left. -/
theorem room_lt_charBytes_fitting (long : room < charBytes text) :
    room < charBytes (fitting room text) + 4 := by
  induction text generalizing room with
  | nil => exact absurd long (Nat.not_lt_zero _)
  | cons c rest ih =>
      rw [charBytes] at long
      rw [fitting]
      split
      · next fits =>
          have left : room - c.utf8Size < charBytes (fitting (room - c.utf8Size) rest) + 4 :=
            ih (by omega)
          rw [charBytes]
          omega
      · next large =>
          have small := c.utf8Size_le_four
          rw [charBytes]
          omega

end Fitting

/-! ## The longest start -/

/-- What is kept of a text is its longest start of whole characters within some bytes. -/
structure IsLongestStart (room : Nat) (text kept : String) : Prop where
  isStart : kept.toList <+: text.toList
  fits : kept.utf8ByteSize ≤ room
  longest : ∀ start : String, start.toList <+: text.toList → start.utf8ByteSize ≤ room →
    start.toList <+: kept.toList

theorem isLongestStart_fitting (room : Nat) (text : String) :
    IsLongestStart room text (String.ofList (fitting room text.toList)) where
  isStart := by
    rw [String.toList_ofList]
    exact fitting_isPrefix room text.toList
  fits := by
    rw [utf8ByteSize_ofList]
    exact charBytes_fitting_le room text.toList
  longest := by
    intro start isStart fits
    rw [String.toList_ofList]
    exact isPrefix_fitting isStart (by rwa [charBytes_toList])

/-! ## The walk back -/

/-- Whether a byte of a text begins a character, or is where the text ends. -/
def isBoundary (text : String) (index : Nat) : Bool :=
  (⟨index⟩ : String.Pos.Raw).isValid text

/--
The boundary that a walk back from a byte comes to within so many steps;
nothing if there is none, or none before the walk runs out of the text.
-/
def boundaryWithin? (text : String) (steps index : Nat) : Option Nat :=
  if isBoundary text index then some index
  else
    match steps, index with
    | steps + 1, index + 1 => boundaryWithin? text steps index
    | _, _ => none

/-- The text that the bytes before a boundary encode; nothing can be cut anywhere else. -/
def cutAt? (text : String) (index : Nat) : Option String :=
  if isBoundary text index then String.fromUTF8? (text.toByteArray.extract 0 index) else none

def excerptWithin? (steps : Nat) (text : String) : Option String :=
  if text.utf8ByteSize ≤ excerptBudget then some text
  else
    match boundaryWithin? text steps excerptBudget with
    | some index => (cutAt? text index).map (· ++ "...")
    | none => none

/-- The boundaries of a text are where its starts end. -/
theorem isBoundary_iff (text : String) (index : Nat) :
    isBoundary text index = true ↔
      ∃ start : String, start.toList <+: text.toList ∧ start.utf8ByteSize = index := by
  rw [isBoundary, String.Pos.Raw.isValid_eq_true_iff, String.Pos.Raw.isValid_iff_exists_append]
  constructor
  · rintro ⟨start, rest, rfl, ends⟩
    refine ⟨start, ?_, (congrArg String.Pos.Raw.byteIdx ends).symm⟩
    rw [String.toList_append]
    exact List.prefix_append _ _
  · rintro ⟨start, ⟨rest, isText⟩, rfl⟩
    refine ⟨start, String.ofList rest, ?_, rfl⟩
    rw [← String.toList_inj, String.toList_append, String.toList_ofList, isText]

/-- A walk comes to the last boundary that is not behind its start, if that is near enough. -/
theorem boundaryWithin?_eq_some {text : String} {last steps index : Nat}
    (isLast : isBoundary text last = true)
    (inside : ∀ between, last < between → between ≤ index → isBoundary text between = false)
    (before : last ≤ index) (near : index ≤ last + steps) :
    boundaryWithin? text steps index = some last := by
  induction steps generalizing index with
  | zero =>
      obtain rfl : index = last := Nat.le_antisymm near before
      rw [boundaryWithin?.eq_def, if_pos isLast]
  | succ steps ih =>
      rcases Nat.eq_or_lt_of_le before with rfl | further
      · rw [boundaryWithin?.eq_def, if_pos isLast]
      · cases index with
        | zero => exact absurd further (Nat.not_lt_zero _)
        | succ index =>
            have here : isBoundary text (index + 1) = false := inside _ further (Nat.le_refl _)
            rw [boundaryWithin?.eq_def, if_neg (by rw [here]; exact Bool.false_ne_true)]
            exact ih (fun between behind upTo => inside between behind (Nat.le_succ_of_le upTo))
              (Nat.le_of_lt_succ further) (by omega)

/-- A text is cut where one of its starts ends. -/
theorem cutAt?_of_isPrefix {text start : String} (isStart : start.toList <+: text.toList) :
    cutAt? text start.utf8ByteSize = some start := by
  have boundary := (isBoundary_iff text _).mpr ⟨start, isStart, rfl⟩
  obtain ⟨rest, isText⟩ := isStart
  have joined : text = start ++ String.ofList rest := by
    rw [← String.toList_inj, String.toList_append, String.toList_ofList, isText]
  -- Nothing has to be decoded: the bytes that are cut off are those of the start.
  have bytes : text.toByteArray.extract 0 start.utf8ByteSize = start.toByteArray := by
    rw [joined, String.toByteArray_append]
    exact ByteArray.extract_append_eq_left String.size_toByteArray.symm
  rw [cutAt?, if_pos boundary, bytes]
  exact fromUTF8?_eq_some_iff.mpr rfl

namespace IsLongestStart

variable {room : Nat} {text kept : String}

/-- Behind the longest start there is no boundary for which there is room. -/
theorem not_isBoundary (isLongest : IsLongestStart room text kept) {index : Nat}
    (behind : kept.utf8ByteSize < index) (within : index ≤ room) :
    isBoundary text index = false := by
  rw [Bool.eq_false_iff]
  intro boundary
  obtain ⟨start, isStart, rfl⟩ := (isBoundary_iff text index).mp boundary
  have shorter := charBytes_le_of_isPrefix (isLongest.longest start isStart within)
  rw [charBytes_toList, charBytes_toList] at shorter
  exact Nat.not_lt.mpr shorter behind

theorem boundaryWithin?_eq (isLongest : IsLongestStart room text kept) {steps : Nat}
    (near : room ≤ kept.utf8ByteSize + steps) :
    boundaryWithin? text steps room = some kept.utf8ByteSize :=
  boundaryWithin?_eq_some ((isBoundary_iff text _).mpr ⟨kept, isLongest.isStart, rfl⟩)
    (fun _ behind within => isLongest.not_isBoundary behind within) isLongest.fits near

end IsLongestStart

/-! ## Excerpts -/

/--
An excerpt is the text itself if it fits the budget, and else its longest start
of whole characters that does, which leaves at most three bytes of the budget
unused, followed by three dots.  A walk back from the budget never fails to
find where to cut, and needs three steps at most.
-/
theorem excerpt_keeps_longest_start (text : String) :
    (∀ steps, excerptWithin? (steps + 3) text = some (excerpt text)) ∧
      (text.utf8ByteSize ≤ 1000 → excerpt text = text) ∧
      (1000 < text.utf8ByteSize →
        ∃ kept, excerpt text = kept ++ "..." ∧ IsLongestStart 1000 text kept ∧
          cutAt? text kept.utf8ByteSize = some kept ∧
          997 ≤ kept.utf8ByteSize ∧ kept.utf8ByteSize ≤ 1000) := by
  have budget : excerptBudget = 1000 := rfl
  rcases Nat.lt_or_ge 1000 text.utf8ByteSize with long | short
  · have tooLong : ¬text.utf8ByteSize ≤ excerptBudget := Nat.not_le.mpr long
    obtain ⟨kept, isKept⟩ : ∃ kept, kept = String.ofList (fitting 1000 text.toList) := ⟨_, rfl⟩
    have isLongest : IsLongestStart 1000 text kept := isKept ▸ isLongestStart_fitting 1000 text
    have isExcerpt : excerpt text = kept ++ "..." := by
      rw [excerpt, if_neg tooLong, isKept, budget]
    have nearlyAll : 1000 < kept.utf8ByteSize + 4 := by
      rw [isKept, utf8ByteSize_ofList]
      exact room_lt_charBytes_fitting (by rwa [charBytes_toList])
    have isCut := cutAt?_of_isPrefix isLongest.isStart
    refine ⟨fun steps => ?_, fun short => absurd short tooLong, fun _ =>
      ⟨kept, isExcerpt, isLongest, isCut, by omega, isLongest.fits⟩⟩
    -- The longest start ends at byte 997 or later, so three steps back are enough.
    rw [excerptWithin?, if_neg tooLong, budget, isLongest.boundaryWithin?_eq (by omega)]
    dsimp only
    rw [isCut, isExcerpt]
    rfl
  · have fits : text.utf8ByteSize ≤ excerptBudget := short
    refine ⟨fun steps => ?_, fun _ => if_pos fits, fun long => absurd short (Nat.not_le.mpr long)⟩
    rw [excerptWithin?, excerpt, if_pos fits, if_pos fits]

/-- Characters of four bytes behind one of a single byte leave three bytes of the budget unused. -/
example : charBytes (fitting excerptBudget ('a' :: List.replicate 250 '😀')) = 997 := by
  decide +kernel

end TaskLink
