/-!
# Excerpts for diagnostics

A text that is quoted in a diagnostic or an error is cut to a byte budget, at
a character boundary, and marked when something was cut.
-/

namespace TaskLink

def excerptBudget : Nat := 1000

/-- The longest run of whole characters from the start that fits in `room` bytes. -/
def fitting : Nat → List Char → List Char
  | _, [] => []
  | room, c :: rest =>
      if c.utf8Size ≤ room then c :: fitting (room - c.utf8Size) rest else []

/-- The text itself, or its fitting start followed by three dots. -/
def excerpt (text : String) : String :=
  if text.utf8ByteSize ≤ excerptBudget then text
  else String.ofList (fitting excerptBudget text.toList) ++ "..."

/-! ## Laws -/

def charBytes : List Char → Nat
  | [] => 0
  | c :: rest => c.utf8Size + charBytes rest

theorem charBytes_fitting_le (room : Nat) (text : List Char) :
    charBytes (fitting room text) ≤ room := by
  induction text generalizing room with
  | nil => exact Nat.zero_le _
  | cons c rest ih =>
      unfold fitting
      split
      · next h =>
          have := ih (room - c.utf8Size)
          simp only [charBytes] at this ⊢
          omega
      · exact Nat.zero_le _

theorem fitting_isPrefix (room : Nat) (text : List Char) :
    fitting room text <+: text := by
  induction text generalizing room with
  | nil => exact List.prefix_rfl
  | cons c rest ih =>
      unfold fitting
      split
      · exact (List.prefix_cons_inj c).2 (ih _)
      · exact List.nil_prefix

end TaskLink
