import TaskLink.Link.Error
import TaskLink.Proofs.Json.RoundTrip
import TaskLink.Text.Excerpt

/-!
# Texts of timeouts

An error quotes the command that was not answered without its quotes and
backslashes, so that the text of the error may be placed between quotes as it
stands.  The grammar of data texts refuses one more kind of character inside
quotes, and that kind is left in: the text of a timeout is a literal of itself
exactly if the quoted start of the command has no control character.
-/

namespace TaskLink

/-- Placed between quotes as it stands, a text is read as itself. -/
def IsLiteral (text : String) : Prop :=
  Json.read? ("\"" ++ text ++ "\"") = some (.text text)

instance (text : String) : Decidable (IsLiteral text) :=
  inferInstanceAs (Decidable (_ = _))

/-- A character that the grammar lets stand for itself between quotes. -/
def StandsForItself (c : Char) : Prop :=
  c ≠ '"' ∧ c ≠ '\\' ∧ ¬ c < ' '

instance (c : Char) : Decidable (StandsForItself c) :=
  inferInstanceAs (Decidable (_ ∧ _))

/-- The characters of a fixed text are looked through one by one. -/
theorem standsForItself_of_all {chars : List Char}
    (all : chars.all (fun c => decide (StandsForItself c)) = true) :
    ∀ c ∈ chars, StandsForItself c :=
  fun c isIn => of_decide_eq_true (List.all_eq_true.mp all c isIn)

/-! ## Literals -/

section Literals

variable {c : Char} {chars : List Char} {text : String}

theorem escapedChar_of_standsForItself (itself : StandsForItself c) : escapedChar c = [c] := by
  obtain ⟨notQuote, notBackslash, notControl⟩ := itself
  obtain ⟨letter, -, isLetter, isWritten⟩ | ⟨control, -⟩ | ⟨-, -, -, isWritten⟩ :=
    escapedChar_cases c
  · -- the characters with a letter of their own are the two excluded ones and control characters
    unfold escapeLetter? at isLetter
    split at isLetter <;> cases isLetter
    all_goals first
      | exact absurd rfl notQuote
      | exact absurd rfl notBackslash
      | exact absurd (by decide) notControl
      | rfl
  · exact absurd control notControl
  · exact isWritten

theorem flatMap_escapedChar (itself : ∀ c ∈ chars, StandsForItself c) :
    chars.flatMap escapedChar = chars := by
  induction chars with
  | nil => rfl
  | cons c rest ih =>
      rw [List.flatMap_cons, escapedChar_of_standsForItself (itself c List.mem_cons_self),
        ih fun found isIn => itself found (List.mem_cons_of_mem _ isIn), List.singleton_append]

theorem toList_literal (text : String) :
    ("\"" ++ text ++ "\"").toList = '"' :: (text.toList ++ ['"']) := by
  simp

theorem isLiteral_of_standsForItself (itself : ∀ c ∈ text.toList, StandsForItself c) :
    IsLiteral text := by
  have isWritten : "\"" ++ text ++ "\"" = Json.compact (.text text) := by
    rw [← String.toList_inj, toList_literal, Json.compact, String.toList_ofList, Json.compactChars,
      quotedChars, flatMap_escapedChar itself]
  rw [IsLiteral, isWritten]
  exact Json.read?_compact (.text text) (Nat.zero_le _)

/-- At a control character a text breaks off, whatever comes after it. -/
theorem textUnits_of_control (control : ∃ c ∈ chars, c < ' ')
    (unquoted : ∀ c ∈ chars, c ≠ '"' ∧ c ≠ '\\') (done : List PlacedUnit) (rest : List Char) :
    (textUnits done (chars ++ rest)).2 = none := by
  induction chars generalizing done with
  | nil =>
      obtain ⟨c, isIn, -⟩ := control
      cases isIn
  | cons c later ih =>
      obtain ⟨notQuote, notBackslash⟩ := unquoted c List.mem_cons_self
      rw [List.cons_append]
      by_cases isControl : c < ' '
      · rw [textUnits.eq_def]
        split
        · rfl
        · next same => exact absurd (List.cons.inj same).1 notQuote
        iterate 4
          · next same => exact absurd (List.cons.inj same).1 notBackslash
        · next same =>
            rw [← (List.cons.inj same).1, if_pos isControl]
      · rw [textUnits_plain notQuote notBackslash isControl]
        refine ih ?_ (fun found isIn => unquoted found (List.mem_cons_of_mem _ isIn)) _
        obtain ⟨found, isIn, foundControl⟩ := control
        obtain rfl | isLater := List.mem_cons.mp isIn
        · exact absurd foundControl isControl
        · exact ⟨found, isLater, foundControl⟩

theorem read?_eq_none_of_broken {after : List Char} (broken : (textUnits [] after).2 = none) :
    Json.read? (String.ofList ('"' :: after)) = none := by
  obtain ⟨fault, first⟩ : ∃ fault, firstToken '"' after = (.broken true fault, none) := by
    unfold firstToken
    dsimp only
    rw [broken]
    cases decodeUnits (textUnits [] after).1 with
    | ok _ => exact ⟨_, rfl⟩
    | error fault => exact ⟨fault, rfl⟩
  have tokens : jsonTokens ('"' :: after) = [⟨.broken true fault, '"' :: after⟩] := by
    have notBlank : isJsonBlank '"' = false := rfl
    simp [jsonTokens, tokensWithin, notBlank, first]
  simp [Json.read?, Json.read, tokens, JsonToken.settle, JsonState.run, JsonState.step,
    JsonState.beginValue, Except.toOption]

/-- Without quotes and backslashes, a text is a literal exactly if it has no control character. -/
theorem isLiteral_iff (unquoted : ∀ c ∈ text.toList, c ≠ '"' ∧ c ≠ '\\') :
    IsLiteral text ↔ ∀ c ∈ text.toList, ¬ c < ' ' := by
  constructor
  · intro isLiteral c isIn isControl
    have broken := textUnits_of_control ⟨c, isIn, isControl⟩ unquoted [] ['"']
    have isNone := read?_eq_none_of_broken broken
    rw [← toList_literal, String.ofList_toList] at isNone
    cases isNone.symm.trans isLiteral
  · intro noControl
    refine isLiteral_of_standsForItself fun c isIn => ?_
    exact ⟨(unquoted c isIn).1, (unquoted c isIn).2, noControl c isIn⟩

end Literals

/-! ## What an error is made of -/

theorem standsForItself_of_isDigit {c : Char} (digit : isDigit c = true) : StandsForItself c := by
  simp only [isDigit, Bool.and_eq_true, decide_eq_true_eq] at digit
  refine ⟨?_, ?_, ?_⟩
  · rintro rfl
    exact absurd digit (by decide)
  · rintro rfl
    exact absurd digit (by decide)
  · intro isControl
    have small : c.toNat < 32 := isControl
    have large : 48 ≤ c.toNat := digit.1
    omega

theorem Decimal.standsForItself_positional (value : Decimal) :
    ∀ c ∈ value.positional.toList, StandsForItself c := by
  have zero : StandsForItself '0' := by decide
  have point : StandsForItself '.' := by decide
  have digit : ∀ c ∈ value.digitChars, StandsForItself c := fun c isIn =>
    standsForItself_of_isDigit (isDigit_of_mem_toDigits isIn)
  intro c isIn
  unfold positional at isIn
  dsimp only at isIn
  split at isIn
  · rw [String.toList_ofList, List.mem_append] at isIn
    obtain isDigit | isZero := isIn
    · exact digit c isDigit
    · exact (List.mem_replicate.mp isZero).2 ▸ zero
  split at isIn
  · rw [String.toList_ofList, List.mem_append, List.mem_cons] at isIn
    obtain isWhole | rfl | isPlace := isIn
    · exact digit c (List.mem_of_mem_take isWhole)
    · exact point
    · exact digit c (List.mem_of_mem_drop isPlace)
  · rw [String.toList_ofList, List.mem_cons, List.mem_cons, List.mem_append] at isIn
    obtain rfl | rfl | isZero | isDigit := isIn
    · exact zero
    · exact point
    · exact (List.mem_replicate.mp isZero).2 ▸ zero
    · exact digit c isDigit

theorem Double.standsForItself_signed {negative : Bool} {magnitude : String}
    (itself : ∀ c ∈ magnitude.toList, StandsForItself c) :
    ∀ c ∈ (signed negative magnitude).toList, StandsForItself c := by
  have minus : StandsForItself '-' := by decide
  cases negative with
  | false => exact itself
  | true =>
      intro c isIn
      rw [signed, if_pos rfl, String.toList_append, List.mem_append] at isIn
      obtain isMinus | isLater := isIn
      · exact List.mem_singleton.mp isMinus ▸ minus
      · exact itself c isLater

/-- No number is written with a character that needs an escape. -/
theorem Double.standsForItself_plainText (value : Double) :
    ∀ c ∈ value.plainText.toList, StandsForItself c := by
  cases value with
  | nan => exact standsForItself_of_all (by decide)
  | infinity negative => exact standsForItself_signed (standsForItself_of_all (by decide))
  | finite negative significand power =>
      rw [plainText]
      split
      · exact standsForItself_signed (standsForItself_of_all (by decide))
      · exact standsForItself_signed (Decimal.standsForItself_positional _)

namespace LinkError

theorem toList_message_timeout (command : String) (limit : Duration) :
    (timeout command limit).message.toList =
      "Timed out receiving response of command ".toList ++
        ((excerpt command).toList.filter fun c => c != '"' && c != '\\') ++
          " after ".toList ++ limit.secondsText.toList ++ " seconds".toList := by
  have isWorded : (timeout command limit).message =
      "Timed out receiving response of command " ++ quotable command ++ " after " ++
        limit.secondsText ++ " seconds" := rfl
  rw [isWorded, quotable]
  simp only [String.toList_append, String.toList_ofList]

/-- A character of the text of a timeout is one of the quoted command, or needs no escape. -/
theorem mem_message_timeout {command : String} {limit : Duration} {c : Char}
    (isIn : c ∈ (timeout command limit).message.toList) :
    (c ∈ (excerpt command).toList ∧ c ≠ '"' ∧ c ≠ '\\') ∨ StandsForItself c := by
  have lead : ∀ c ∈ "Timed out receiving response of command ".toList, StandsForItself c :=
    standsForItself_of_all (by decide)
  have middle : ∀ c ∈ " after ".toList, StandsForItself c := standsForItself_of_all (by decide)
  have tail : ∀ c ∈ " seconds".toList, StandsForItself c := standsForItself_of_all (by decide)
  rw [toList_message_timeout] at isIn
  simp only [List.mem_append] at isIn
  obtain (((isLead | isQuoted) | isMiddle) | isTime) | isTail := isIn
  · exact Or.inr (lead c isLead)
  · rw [List.mem_filter, Bool.and_eq_true, bne_iff_ne, bne_iff_ne] at isQuoted
    exact Or.inl isQuoted
  · exact Or.inr (middle c isMiddle)
  · exact Or.inr (Double.standsForItself_plainText _ c isTime)
  · exact Or.inr (tail c isTail)

/--
The text of a timeout is a literal of itself between quotes exactly if the start
of the command that it quotes has no control character: quotes and backslashes
are left out, line breaks and the like are not.
-/
theorem isLiteral_timeout_iff (command : String) (limit : Duration) :
    IsLiteral (timeout command limit).message ↔ ∀ c ∈ (excerpt command).toList, ¬ c < ' ' := by
  have unquoted : ∀ c ∈ (timeout command limit).message.toList, c ≠ '"' ∧ c ≠ '\\' := by
    intro c isIn
    obtain ⟨-, isUnquoted⟩ | ⟨notQuote, notBackslash, -⟩ := mem_message_timeout isIn
    · exact isUnquoted
    · exact ⟨notQuote, notBackslash⟩
  rw [isLiteral_iff unquoted]
  constructor
  · intro noControl c isQuoted isControl
    refine noControl c ?_ isControl
    have isKept : (c != '"' && c != '\\') = true := by
      rw [Bool.and_eq_true, bne_iff_ne, bne_iff_ne]
      constructor
      · rintro rfl
        exact absurd isControl (by decide)
      · rintro rfl
        exact absurd isControl (by decide)
    rw [toList_message_timeout]
    simp only [List.mem_append]
    exact Or.inl (Or.inl (Or.inl (Or.inr (List.mem_filter.mpr ⟨isQuoted, isKept⟩))))
  · intro noControl c isIn
    obtain ⟨isQuoted, -⟩ | itself := mem_message_timeout isIn
    · exact noControl c isQuoted
    · exact itself.2.2

/-- A line break in a command is left in the text of its timeout, which is then no literal. -/
theorem timeout_of_two_lines_is_no_literal :
    ¬ IsLiteral (timeout "a\nb" (.ofSecs 1)).message := by
  decide +kernel

end LinkError

end TaskLink
