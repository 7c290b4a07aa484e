import TaskLink.Json.Printer
import TaskLink.Json.Token

/-!
# Leaves as they are written

A text between quotes is read as the text it was, whatever characters it has:
each is written as one unit, and the units are decoded in order.  A whole
number of 64 bits is read as itself wherever no digit, point or exponent
follows it.
-/

namespace TaskLink

/-! ## Quoted texts -/

def TextUnit.StandsFor (unit : TextUnit) (c : Char) : Prop :=
  unit = .char c ∨ unit = .code c.toNat ∧ c < ' '

theorem hexDigit?_hexChar : ∀ value < 16, hexDigit? (hexChar value) = some value := by
  decide

/-- A character is written as a letter after a backslash, by its number, or as it is. -/
theorem escapedChar_cases (c : Char) :
    (∃ letter, letter ≠ 'u' ∧ escapeLetter? letter = some c ∧ escapedChar c = ['\\', letter]) ∨
    (c < ' ' ∧ escapedChar c =
      ['\\', 'u', '0', '0', hexChar (c.toNat / 16), hexChar (c.toNat % 16)]) ∨
    (c ≠ '"' ∧ c ≠ '\\' ∧ ¬ c < ' ' ∧ escapedChar c = [c]) := by
  simp only [escapedChar, beq_iff_eq]
  split
  · next same => exact Or.inl ⟨'"', by decide, by rw [same]; rfl, rfl⟩
  split
  · next same => exact Or.inl ⟨'\\', by decide, by rw [same]; rfl, rfl⟩
  split
  · next same => exact Or.inl ⟨'b', by decide, by rw [same]; rfl, rfl⟩
  split
  · next same => exact Or.inl ⟨'f', by decide, by rw [same]; rfl, rfl⟩
  split
  · next same => exact Or.inl ⟨'n', by decide, by rw [same]; rfl, rfl⟩
  split
  · next same => exact Or.inl ⟨'r', by decide, by rw [same]; rfl, rfl⟩
  split
  · next same => exact Or.inl ⟨'t', by decide, by rw [same]; rfl, rfl⟩
  split
  · next control => exact Or.inr (Or.inl ⟨control, rfl⟩)
  · next notQuote notBackslash _ _ _ _ _ notControl =>
      exact Or.inr (Or.inr ⟨notQuote, notBackslash, notControl, rfl⟩)

theorem textUnits_letter {letter c : Char} (notCode : letter ≠ 'u')
    (isLetter : escapeLetter? letter = some c) (done : List PlacedUnit) (rest : List Char) :
    textUnits done ('\\' :: letter :: rest) = textUnits ((.char c, rest) :: done) rest := by
  simp [textUnits, notCode, isLetter]

theorem textUnits_control {c : Char} (control : c < ' ') (done : List PlacedUnit)
    (rest : List Char) :
    textUnits done
        ('\\' :: 'u' :: '0' :: '0' :: hexChar (c.toNat / 16) :: hexChar (c.toNat % 16) :: rest) =
      textUnits ((.code c.toNat, rest) :: done) rest := by
  have small : c.toNat < 32 := control
  have zero : hexDigit? '0' = some 0 := rfl
  have quad : hexQuad? '0' '0' (hexChar (c.toNat / 16)) (hexChar (c.toNat % 16)) =
      some c.toNat := by
    rw [hexQuad?, zero, hexDigit?_hexChar _ (by omega), hexDigit?_hexChar _ (by omega)]
    simp only [Option.some.injEq]
    omega
  simp [textUnits, quad]

theorem textUnits_plain {c : Char} (notQuote : c ≠ '"') (notBackslash : c ≠ '\\')
    (notControl : ¬ c < ' ') (done : List PlacedUnit) (rest : List Char) :
    textUnits done (c :: rest) = textUnits ((.char c, rest) :: done) rest := by
  rw [textUnits.eq_def]
  split
  · next same => cases same
  · next same =>
      cases same
      exact absurd rfl notQuote
  iterate 4
    · next same =>
        cases same
        exact absurd rfl notBackslash
  · next same =>
      cases same
      rw [if_neg notControl]

/-- However a character is written, it is read as one unit. -/
theorem textUnits_escapedChar (c : Char) (done : List PlacedUnit) (rest : List Char) :
    ∃ unit, unit.StandsFor c ∧
      textUnits done (escapedChar c ++ rest) = textUnits ((unit, rest) :: done) rest := by
  obtain ⟨letter, notCode, isLetter, isWritten⟩ | ⟨control, isWritten⟩ |
    ⟨notQuote, notBackslash, notControl, isWritten⟩ := escapedChar_cases c
  · rw [isWritten]
    exact ⟨_, Or.inl rfl, textUnits_letter notCode isLetter done rest⟩
  · rw [isWritten]
    exact ⟨_, Or.inr ⟨rfl, control⟩, textUnits_control control done rest⟩
  · rw [isWritten]
    exact ⟨_, Or.inl rfl, textUnits_plain notQuote notBackslash notControl done rest⟩

inductive StandFor : List PlacedUnit → List Char → Prop where
  | nil : StandFor [] []
  | cons {unit : PlacedUnit} {c : Char} {units : List PlacedUnit} {chars : List Char}
      (standsFor : unit.1.StandsFor c) (standFor : StandFor units chars) :
      StandFor (unit :: units) (c :: chars)

/-- A row of characters is read as units up to the quote after it. -/
theorem textUnits_flatMap (chars : List Char) (done : List PlacedUnit) (rest : List Char) :
    ∃ units, StandFor units chars ∧
      textUnits done (chars.flatMap escapedChar ++ '"' :: rest) =
        (done.reverse ++ units, some rest) := by
  induction chars generalizing done with
  | nil => exact ⟨[], .nil, by simp [textUnits]⟩
  | cons c later ih =>
      let after := later.flatMap escapedChar ++ '"' :: rest
      obtain ⟨unit, standsFor, first⟩ := textUnits_escapedChar c done after
      obtain ⟨units, standFor, whole⟩ := ih ((unit, after) :: done)
      refine ⟨(unit, after) :: units, .cons standsFor standFor, ?_⟩
      rw [List.flatMap_cons, List.append_assoc, first, whole, List.reverse_cons,
        List.append_assoc, List.singleton_append]

/-- A unit that stands for a character is decoded to it. -/
theorem pairUnits_cons {unit : PlacedUnit} {c : Char} (standsFor : unit.1.StandsFor c)
    (done : List Char) (rest : List PlacedUnit) :
    pairUnits done (unit :: rest) = pairUnits (c :: done) rest := by
  obtain ⟨unit, after⟩ := unit
  obtain rfl | ⟨rfl, control⟩ := standsFor
  · rw [pairUnits]
  · have small : c.toNat < 32 := control
    have notLow : isLowSurrogate c.toNat = false := by
      simp only [isLowSurrogate, Bool.and_eq_false_iff, decide_eq_false_iff_not]
      omega
    have notHigh : isHighSurrogate c.toNat = false := by
      simp only [isHighSurrogate, Bool.and_eq_false_iff, decide_eq_false_iff_not]
      omega
    rw [pairUnits.eq_def]
    simp [notLow, notHigh, Char.ofNat_toNat]

theorem pairUnits_of_standFor {units : List PlacedUnit} {chars : List Char}
    (standFor : StandFor units chars) (done : List Char) :
    pairUnits done units = .ok (chars.reverse ++ done) := by
  induction standFor generalizing done with
  | nil => rfl
  | cons standsFor later ih =>
      rw [pairUnits_cons standsFor, ih, List.reverse_cons, List.append_assoc,
        List.singleton_append]

/-- A text between quotes is read back, whatever characters it has. -/
theorem firstToken_quoted (text : String) (rest : List Char) :
    firstToken '"' (text.toList.flatMap escapedChar ++ '"' :: rest) =
      (.text (.ok text), some rest) := by
  obtain ⟨units, standFor, scanned⟩ := textUnits_flatMap text.toList [] rest
  have decoded : decodeUnits units = .ok text := by
    rw [decodeUnits, pairUnits_of_standFor standFor]
    simp
  simp [firstToken, scanned, decoded]

/-! ## Whole numbers -/

/-- Whatever comes next is no part of a numeral. -/
def EndsNumeral (rest : List Char) : Prop :=
  ∀ c, rest.head? = some c → isDigit c = false ∧ c ≠ '.' ∧ c ≠ 'e' ∧ c ≠ 'E'

theorem endsNumeral_nil : EndsNumeral [] :=
  fun _ head => nomatch head

theorem endsNumeral_cons {c : Char} (apart : isDigit c = false ∧ c ≠ '.' ∧ c ≠ 'e' ∧ c ≠ 'E')
    (rest : List Char) : EndsNumeral (c :: rest) := by
  rintro found ⟨⟩
  exact apart

theorem isDigit_eq (c : Char) : isDigit c = c.isDigit := by
  simp [isDigit, Char.isDigit, Char.le_def]

theorem isDigit_of_mem_toDigits {n : Nat} {c : Char} (isIn : c ∈ Nat.toDigits 10 n) :
    isDigit c = true := by
  rw [isDigit_eq]
  exact Nat.isDigit_of_mem_toDigits (by decide) (by decide) isIn

theorem eq_zero_of_head?_toDigits {n : Nat} (zero : (Nat.toDigits 10 n).head? = some '0') :
    n = 0 := by
  induction n using Nat.strongRecOn with
  | ind n ih =>
      rw [Nat.toDigits_eq_if (by decide)] at zero
      split at zero
      · simpa using zero
      · next large =>
          rw [List.head?_append] at zero
          cases first : (Nat.toDigits 10 (n / 10)).head? with
          | none => exact absurd (List.head?_eq_none_iff.mp first) Nat.toDigits_ne_nil
          | some c =>
              rw [first] at zero
              have small : n / 10 = 0 := ih (n / 10) (by omega) (first.trans zero)
              omega

section Scanning

variable {rest : List Char}

theorem spanDigits_toDigits (n : Nat) (ends : EndsNumeral rest) :
    spanDigits (Nat.toDigits 10 n ++ rest) = (Nat.toDigits 10 n, rest) := by
  have digits : ∀ c ∈ Nat.toDigits 10 n, isDigit c = true := fun c => isDigit_of_mem_toDigits
  have stops : rest.takeWhile isDigit = [] ∧ rest.dropWhile isDigit = rest := by
    cases rest with
    | nil => exact ⟨rfl, rfl⟩
    | cons c more =>
        have notDigit := (ends c rfl).1
        simp [notDigit]
  rw [spanDigits, List.takeWhile_append_of_pos digits, List.dropWhile_append_of_pos digits,
    stops.1, stops.2, List.append_nil]

theorem scanWhole_toDigits (n : Nat) (ends : EndsNumeral rest) :
    scanWhole (Nat.toDigits 10 n ++ rest) = .ok (Nat.toDigits 10 n, rest) := by
  rw [scanWhole, spanDigits_toDigits n ends]
  split
  · next same => exact absurd (congrArg Prod.fst same) Nat.toDigits_ne_nil
  · next second more _ same =>
      have digits : Nat.toDigits 10 n = '0' :: second :: more := congrArg Prod.fst same
      have zero : n = 0 := eq_zero_of_head?_toDigits (by rw [digits]; rfl)
      rw [zero, Nat.toDigits_zero] at digits
      cases digits
  · next same =>
      cases same
      rfl

theorem scanFraction_of_ends (ends : EndsNumeral rest) : scanFraction rest = .ok ([], rest) := by
  unfold scanFraction
  split
  · exact absurd rfl (ends '.' rfl).2.1
  · rfl

theorem scanExponent_of_ends (ends : EndsNumeral rest) :
    scanExponent rest = .ok (none, [], rest) := by
  cases rest with
  | nil => rfl
  | cons c more =>
      obtain ⟨-, -, notSmall, notLarge⟩ := ends c rfl
      simp [scanExponent, notSmall, notLarge]

def wholeNumeral (negative : Bool) (n : Nat) : Numeral :=
  ⟨negative, Nat.toDigits 10 n, [], none, []⟩

theorem exists_toDigits_eq (n : Nat) :
    ∃ c more, Nat.toDigits 10 n = c :: more ∧ isDigit c = true := by
  cases digits : Nat.toDigits 10 n with
  | nil => exact absurd digits Nat.toDigits_ne_nil
  | cons c more =>
      have isIn : c ∈ Nat.toDigits 10 n := by
        rw [digits]
        exact List.mem_cons_self
      exact ⟨c, more, rfl, isDigit_of_mem_toDigits isIn⟩

theorem scanNumeral_toDigits (n : Nat) (ends : EndsNumeral rest) :
    scanNumeral (Nat.toDigits 10 n ++ rest) = .ok (wholeNumeral false n, rest) := by
  have whole := scanWhole_toDigits n ends
  obtain ⟨c, more, digits, isDigit⟩ := exists_toDigits_eq n
  have notMinus : c ≠ '-' := by
    rintro rfl
    cases isDigit
  rw [digits, List.cons_append] at whole
  rw [wholeNumeral, digits, List.cons_append]
  simp [scanNumeral, notMinus, whole, scanFraction_of_ends ends, scanExponent_of_ends ends, bind,
    Except.bind, pure, Except.pure]

theorem scanNumeral_minus (n : Nat) (ends : EndsNumeral rest) :
    scanNumeral ('-' :: (Nat.toDigits 10 n ++ rest)) = .ok (wholeNumeral true n, rest) := by
  simp [scanNumeral, scanWhole_toDigits n ends, scanFraction_of_ends ends,
    scanExponent_of_ends ends, bind, Except.bind, pure, Except.pure, wholeNumeral]

end Scanning

/-! ### Values -/

theorem le_ofDigitChars (digits : List Char) (init : Nat) :
    init ≤ Nat.ofDigitChars 10 digits init := by
  induction digits generalizing init with
  | nil => exact Nat.le_of_eq Nat.ofDigitChars_nil.symm
  | cons c rest ih =>
      rw [Nat.ofDigitChars_cons]
      have later := ih (10 * init + (c.toNat - '0'.toNat))
      omega

/-- All digits of a number are gathered if 64 bits hold it. -/
theorem gatherDigits_of_lt {digits : List Char} {significand : Nat}
    (fits : Nat.ofDigitChars 10 digits significand < UInt64.size) :
    gatherDigits significand digits = (Nat.ofDigitChars 10 digits significand, 0) := by
  induction digits generalizing significand with
  | nil => rw [gatherDigits, Nat.ofDigitChars_nil]
  | cons c rest ih =>
      rw [Nat.ofDigitChars_cons, Nat.mul_comm] at fits ⊢
      have small := Nat.lt_of_le_of_lt (le_ofDigitChars rest _) fits
      rw [gatherDigits, if_pos small]
      exact ih fits

theorem value_wholeNumeral {negative : Bool} {n : Nat} (fits : n < UInt64.size)
    (rest : List Char) :
    (wholeNumeral negative n).value rest = .ok (Numeral.wholeValue negative n) := by
  have gathered : gatherDigits 0 (Nat.toDigits 10 n) = (n, 0) := by
    have digits : Nat.ofDigitChars 10 (Nat.toDigits 10 n) 0 = n := Nat.ofDigitChars_ten_toDigits
    rw [gatherDigits_of_lt (by rwa [digits]), digits]
  simp [Numeral.value, wholeNumeral, gathered]

/-! ### First tokens -/

theorem firstToken_numeral {c : Char} (begins : c = '-' ∨ isDigit c = true) (rest : List Char) :
    firstToken c rest =
      match scanNumeral (c :: rest) with
      | .ok (numeral, after) => (.number (numeral.value after), some after)
      | .error fault => (.broken false fault, none) := by
  unfold firstToken
  dsimp only
  split
  iterate 10 exact absurd begins (by decide)
  have isNumeral : (c == '-' || isDigit c) = true := by
    rwa [Bool.or_eq_true, beq_iff_eq]
  exact if_pos isNumeral

theorem isJsonBlank_of_numeral {c : Char} (begins : c = '-' ∨ isDigit c = true) :
    isJsonBlank c = false := by
  cases blank : isJsonBlank c with
  | false => rfl
  | true =>
      simp only [isJsonBlank, Bool.or_eq_true, beq_iff_eq] at blank
      rcases blank with ((rfl | rfl) | rfl) | rfl <;> exact absurd begins (by decide)

/-- A whole number of 64 bits, signed or unsigned. -/
def FitsWord (value : Int) : Prop :=
  -9223372036854775808 ≤ value ∧ value < 18446744073709551616

instance (value : Int) : Decidable (FitsWord value) :=
  inferInstanceAs (Decidable (_ ∧ _))

/-- A whole number is read back where its numeral ends. -/
theorem firstToken_whole {value : Int} (fits : FitsWord value) {rest : List Char}
    (ends : EndsNumeral rest) :
    ∃ c more, (toString value).toList = c :: more ∧ isJsonBlank c = false ∧
      firstToken c (more ++ rest) = (.number (.ok (.whole value)), some rest) := by
  obtain ⟨least, most⟩ := fits
  rw [Int.toString_eq_repr, Int.repr_eq_if]
  split
  · next positive =>
      obtain ⟨c, more, digits, begins⟩ := exists_toDigits_eq value.toNat
      have scanned := scanNumeral_toDigits value.toNat ends
      rw [Nat.toList_repr]
      refine ⟨c, more, digits, isJsonBlank_of_numeral (Or.inr begins), ?_⟩
      rw [digits, List.cons_append] at scanned
      rw [firstToken_numeral (Or.inr begins), scanned]
      dsimp only
      rw [value_wholeNumeral (by rw [UInt64.size]; omega), Numeral.wholeValue]
      simp [Int.toNat_of_nonneg positive]
  · next negative =>
      have scanned := scanNumeral_minus (-value).toNat ends
      refine ⟨'-', Nat.toDigits 10 (-value).toNat, ?_, rfl, ?_⟩
      · rw [String.toList_append, Nat.toList_repr]
        rfl
      · have nonzero : (-value).toNat ≠ 0 := by omega
        have small : (-value).toNat ≤ 9223372036854775808 := by omega
        rw [firstToken_numeral (Or.inl rfl), scanned]
        dsimp only
        rw [value_wholeNumeral (by rw [UInt64.size]; omega), Numeral.wholeValue]
        simp [nonzero, small]
        omega

end TaskLink
