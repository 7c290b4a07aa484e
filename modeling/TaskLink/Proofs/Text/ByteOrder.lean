import Mathlib.Data.List.Basic
import Mathlib.Tactic.SplitIfs

/-!
# The order of texts

Texts are ordered by their characters.  That is the order of the bytes that
encode them, since a smaller character is encoded by smaller bytes.
-/

namespace TaskLink

open String (utf8EncodeChar)

def encodedBytes (text : String) : List UInt8 :=
  text.toByteArray.data.toList

/-! ## One character -/

/-- The smaller of two numbers is smaller in the first sextet in which they differ. -/
theorem sextet_lt {m n : Nat} (less : m < n) :
    m / 64 < n / 64 ∨ m / 64 = n / 64 ∧ m % 64 < n % 64 := by
  omega

theorem sextets_lt {m n : Nat} (less : m < n) :
    m / 262144 < n / 262144 ∨ m / 262144 = n / 262144 ∧
      (m / 4096 % 64 < n / 4096 % 64 ∨ m / 4096 % 64 = n / 4096 % 64 ∧
        (m / 64 % 64 < n / 64 % 64 ∨ m / 64 % 64 = n / 64 % 64 ∧ m % 64 < n % 64)) := by
  have nested (k : Nat) : k / 4096 = k / 64 / 64 ∧ k / 262144 = k / 64 / 64 / 64 := by omega
  rw [(nested m).1, (nested m).2, (nested n).1, (nested n).2]
  rcases sextet_lt less with high | ⟨high, low⟩
  · rcases sextet_lt high with higher | ⟨higher, middle⟩
    · rcases sextet_lt higher with highest | ⟨highest, upper⟩
      · exact Or.inl highest
      · exact Or.inr ⟨highest, Or.inl upper⟩
    · exact Or.inr ⟨by rw [higher], Or.inr ⟨by rw [higher], Or.inl middle⟩⟩
  · rw [high]
    exact Or.inr ⟨rfl, Or.inr ⟨rfl, Or.inr ⟨rfl, low⟩⟩⟩

theorem toNat_val_lt (c : Char) : c.val.toNat < 0x110000 := by
  rcases c.valid with low | ⟨-, high⟩
  · exact Nat.lt_trans low (by decide)
  · exact high

/-- The bytes of a smaller character are smaller, whatever comes after them. -/
theorem utf8EncodeChar_append_lt {c d : Char} (less : c < d) (rest others : List UInt8) :
    utf8EncodeChar c ++ rest < utf8EncodeChar d ++ others := by
  have isLess : c.val.toNat < d.val.toNat := less
  have bound := toNat_val_lt d
  have sextets := sextets_lt isLess
  unfold utf8EncodeChar
  generalize c.val.toNat = m at *
  generalize d.val.toNat = n at *
  dsimp only
  -- Encodings of different lengths differ in the first byte, others in a sextet.
  split_ifs <;>
    simp only [List.cons_append, List.nil_append, List.cons_lt_cons_iff, UInt8.lt_iff_toNat_lt,
      ← UInt8.toNat_inj, UInt8.toNat_ofNat'] <;>
    simp (disch := omega) only [Nat.mod_eq_of_lt] <;>
    omega

/-! ## Texts -/

theorem flatMap_utf8EncodeChar_lt {text other : List Char} (less : text < other) :
    text.flatMap utf8EncodeChar < other.flatMap utf8EncodeChar := by
  induction text generalizing other with
  | nil =>
      cases other with
      | nil => exact absurd less (List.not_lt_nil [])
      | cons d others =>
          rw [List.flatMap_nil, List.flatMap_cons]
          cases encoded : utf8EncodeChar d with
          | nil => exact absurd encoded String.utf8EncodeChar_ne_nil
          | cons byte bytes => exact List.nil_lt_cons _ _
  | cons c rest ih =>
      cases other with
      | nil => exact absurd less (List.not_lt_nil _)
      | cons d others =>
          rw [List.flatMap_cons, List.flatMap_cons]
          rcases List.cons_lt_cons_iff.mp less with isLess | ⟨rfl, later⟩
          · exact utf8EncodeChar_append_lt isLess _ _
          · exact List.append_left_lt (ih later)

theorem encodedBytes_eq (text : String) :
    encodedBytes text = text.toList.flatMap utf8EncodeChar := by
  rw [encodedBytes, ← String.utf8Encode_toList, List.utf8Encode, List.toList_data_toByteArray]

theorem encodedBytes_lt {text other : String} (less : text < other) :
    encodedBytes text < encodedBytes other := by
  rw [encodedBytes_eq, encodedBytes_eq]
  exact flatMap_utf8EncodeChar_lt (String.lt_iff.mp less)

theorem encodedBytes_lt_iff (text other : String) :
    encodedBytes text < encodedBytes other ↔ text < other := by
  constructor
  · intro less
    apply String.not_le.mp
    intro notLess
    by_cases same : other = text
    · subst same
      exact List.lt_irrefl _ less
    · have more : other < text :=
        String.not_le.mp fun notMore => same (String.le_antisymm notLess notMore)
      exact List.lt_asymm less (encodedBytes_lt more)
  · exact encodedBytes_lt

end TaskLink
