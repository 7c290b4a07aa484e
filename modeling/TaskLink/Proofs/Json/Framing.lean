import TaskLink.Proofs.Json.Readings

/-!
# Texts inside longer texts

A text that respects the grammar on its own is also read where it stands
inside a longer one, as long as no digit or other part of a numeral follows
it.  What a fault in a leaf says depends on what follows, so the tree may be
another one there.
-/

namespace TaskLink

/-! ## Scanning -/

section Scanning

variable {text rest after more : List Char}

theorem scanWord_append {letters : List Char} (scans : scanWord letters rest = .ok after)
    (more : List Char) :
    after.length ≤ rest.length ∧ scanWord letters (rest ++ more) = .ok (after ++ more) := by
  fun_induction scanWord letters rest with
  | case1 rest =>
      cases scans
      exact ⟨Nat.le_refl _, rfl⟩
  | case3 expectedChar letters c rest expected ih =>
      obtain ⟨shorter, again⟩ := ih scans
      refine ⟨Nat.le_succ_of_le shorter, ?_⟩
      rw [List.cons_append, scanWord, if_pos expected, again]
  | _ => cases scans

/-- A quoted text that is closed stays closed there, whatever follows. -/
theorem textUnits_append {done : List PlacedUnit} (scans : (textUnits done rest).2 = some after)
    (others : List PlacedUnit) (more : List Char) :
    after.length ≤ rest.length ∧ (textUnits others (rest ++ more)).2 = some (after ++ more) := by
  fun_induction textUnits done rest generalizing others with
  | case2 done rest =>
      cases scans
      exact ⟨Nat.le_succ _, rfl⟩
  | case3 done a b c d rest value isValue ih =>
      obtain ⟨shorter, again⟩ := ih scans ((.code value, rest ++ more) :: others)
      refine ⟨by simp; omega, ?_⟩
      simpa [textUnits, isValue] using again
  | case6 done letter rest notQuad notCode c isLetter ih =>
      obtain ⟨shorter, again⟩ := ih scans ((.char c, rest ++ more) :: others)
      refine ⟨by simp; omega, ?_⟩
      rw [List.cons_append, List.cons_append, textUnits_letter notCode isLetter, again]
  | case10 done c rest notQuote _ _ notEscape notLast notControl ih =>
      obtain ⟨shorter, again⟩ := ih scans ((.char c, rest ++ more) :: others)
      have notBackslash : c ≠ '\\' := by
        intro same
        cases rest with
        | nil => exact notLast same rfl
        | cons letter rest => exact notEscape letter rest same rfl
      refine ⟨by simp; omega, ?_⟩
      rw [List.cons_append, textUnits_plain notQuote notBackslash notControl, again]
  | _ => cases scans

/-! ### Numerals -/

theorem spanDigits_append (ends : EndsNumeral more) (text : List Char) :
    spanDigits (text ++ more) = ((spanDigits text).1, (spanDigits text).2 ++ more) := by
  induction text with
  | nil =>
      cases more with
      | nil => rfl
      | cons c later => simp [spanDigits, (ends c rfl).1]
  | cons c text ih =>
      rw [spanDigits, Prod.mk.injEq] at ih
      cases isDigit : isDigit c <;> simp [spanDigits, isDigit, ih]

theorem spanDigits_length (text : List Char) :
    (spanDigits text).1.length + (spanDigits text).2.length = text.length := by
  rw [spanDigits, ← List.length_append, List.takeWhile_append_dropWhile]

theorem scanWhole_append {digits : List Char} (scans : scanWhole text = .ok (digits, rest))
    (ends : EndsNumeral more) :
    rest.length < text.length ∧ scanWhole (text ++ more) = .ok (digits, rest ++ more) := by
  have spanned := spanDigits_length text
  unfold scanWhole at scans ⊢
  rw [spanDigits_append ends]
  generalize spanDigits text = split at scans spanned ⊢
  split at scans
  · cases scans
  · cases scans
  · next notEmpty notZero =>
      cases scans
      have some := List.length_pos_iff.mpr notEmpty
      dsimp only at spanned
      exact ⟨by omega, rfl⟩

theorem scanFraction_append {digits : List Char} (scans : scanFraction text = .ok (digits, rest))
    (ends : EndsNumeral more) :
    rest.length ≤ text.length ∧ scanFraction (text ++ more) = .ok (digits, rest ++ more) := by
  cases text with
  | nil =>
      cases scans
      exact ⟨Nat.le_refl _, scanFraction_of_ends ends⟩
  | cons c text =>
      by_cases point : c = '.'
      · subst point
        have spanned := spanDigits_length text
        simp only [scanFraction, List.cons_append] at scans ⊢
        rw [spanDigits_append ends]
        split at scans <;> cases scans
        next some =>
          refine ⟨by simp; omega, ?_⟩
          rw [if_neg some]
      · have none (rest : List Char) : scanFraction (c :: rest) = .ok ([], c :: rest) := by
          unfold scanFraction
          split
          · next same =>
              cases same
              exact absurd rfl point
          · rfl
        rw [none] at scans
        cases scans
        exact ⟨Nat.le_refl _, none _⟩

/-- A sign is found where there is anything at all. -/
theorem scanSign_append {source : List Char} (some : source ≠ []) (more : List Char) :
    scanSign (source ++ more) = ((scanSign source).1, (scanSign source).2 ++ more) := by
  cases source with
  | nil => exact absurd rfl some
  | cons c later =>
      by_cases minus : c = '-'
      · subst minus
        rfl
      · by_cases plus : c = '+'
        · subst plus
          rfl
        · simp [scanSign, minus, plus]

theorem scanSign_length (source : List Char) : (scanSign source).2.length ≤ source.length := by
  unfold scanSign
  split <;> simp

theorem scanExponent_append {exponent : Option (Bool × List Char)} {source : List Char}
    (scans : scanExponent text = .ok (exponent, source, rest)) (ends : EndsNumeral more) :
    rest.length ≤ text.length ∧
      ∃ source, scanExponent (text ++ more) = .ok (exponent, source, rest ++ more) := by
  cases text with
  | nil =>
      cases scans
      exact ⟨Nat.le_refl _, [], scanExponent_of_ends ends⟩
  | cons c text =>
      simp only [scanExponent, List.cons_append] at scans ⊢
      split at scans
      · next isMark =>
          rw [if_pos isMark]
          split at scans
          · cases scans
          · next digits =>
              cases scans
              have some : text ≠ [] := by
                rintro rfl
                exact digits rfl
              have signed := scanSign_length text
              have spanned := spanDigits_length (scanSign text).2
              rw [scanSign_append some, spanDigits_append ends, if_neg digits]
              exact ⟨by simp; omega, _, rfl⟩
      · next notMark =>
          cases scans
          rw [if_neg notMark]
          exact ⟨Nat.le_refl _, _, rfl⟩

def scanUnsigned (negative : Bool) (body : List Char) : Except JsonFault (Numeral × List Char) := do
  let (whole, rest) ← scanWhole body
  let (fraction, rest) ← scanFraction rest
  let (exponent, exponentSource, rest) ← scanExponent rest
  return (⟨negative, whole, fraction, exponent, exponentSource⟩, rest)

theorem scanNumeral_of_minus (body : List Char) :
    scanNumeral ('-' :: body) = scanUnsigned true body :=
  rfl

theorem scanNumeral_of_unsigned {c : Char} (notMinus : c ≠ '-') (rest : List Char) :
    scanNumeral (c :: rest) = scanUnsigned false (c :: rest) := by
  simp [scanNumeral, scanUnsigned, notMinus]

theorem exists_of_bind_eq_ok {ε α β : Type} {first : Except ε α} {next : α → Except ε β} {done : β}
    (scans : first >>= next = .ok done) : ∃ middle, first = .ok middle ∧ next middle = .ok done := by
  cases first with
  | error fault => cases scans
  | ok middle => exact ⟨middle, rfl, scans⟩

theorem scanUnsigned_append {negative : Bool} {numeral : Numeral}
    (scans : scanUnsigned negative text = .ok (numeral, after)) (ends : EndsNumeral more) :
    after.length < text.length ∧
      ∃ numeral, scanUnsigned negative (text ++ more) = .ok (numeral, after ++ more) := by
  unfold scanUnsigned at scans ⊢
  obtain ⟨⟨digits, rest⟩, isWhole, scans⟩ := exists_of_bind_eq_ok scans
  obtain ⟨⟨fraction, left⟩, isFraction, scans⟩ := exists_of_bind_eq_ok scans
  obtain ⟨⟨exponent, source, last⟩, isExponent, scans⟩ := exists_of_bind_eq_ok scans
  cases scans
  obtain ⟨shorter, isWhole⟩ := scanWhole_append isWhole ends
  obtain ⟨noLonger, isFraction⟩ := scanFraction_append isFraction ends
  obtain ⟨least, source, isExponent⟩ := scanExponent_append isExponent ends
  refine ⟨by omega, ⟨negative, digits, fraction, exponent, source⟩, ?_⟩
  simp [isWhole, isFraction, isExponent, bind, Except.bind, pure, Except.pure]

theorem scanNumeral_append {numeral : Numeral} (scans : scanNumeral text = .ok (numeral, after))
    (ends : EndsNumeral more) :
    after.length < text.length ∧
      ∃ numeral, scanNumeral (text ++ more) = .ok (numeral, after ++ more) := by
  cases text with
  | nil => cases scans
  | cons c text =>
      by_cases minus : c = '-'
      · subst minus
        rw [scanNumeral_of_minus] at scans
        obtain ⟨shorter, again⟩ := scanUnsigned_append scans ends
        rw [List.cons_append, scanNumeral_of_minus]
        exact ⟨Nat.lt_succ_of_lt shorter, again⟩
      · rw [scanNumeral_of_unsigned minus] at scans
        rw [List.cons_append, scanNumeral_of_unsigned minus, ← List.cons_append]
        exact scanUnsigned_append scans ends

end Scanning

/-! ## Tokens -/

/-- Marks that differ in nothing but what a leaf is decoded to. -/
inductive JsonMark.IsLike {ν τ : Type} : JsonMark ν τ → JsonMark ν τ → Prop where
  | same (mark : JsonMark ν τ) : IsLike mark mark
  | number (value other : ν) : IsLike (.number value) (.number other)
  | text (value other : τ) : IsLike (.text value) (.text other)

theorem JsonMark.IsLike.goesOn {ν τ : Type} {mark other : JsonMark ν τ} (like : mark.IsLike other)
    (goesOn : mark ≠ .closeArray) : other ≠ .closeArray := by
  cases like with
  | same => exact goesOn
  | number | text => simp

section Tokens

variable {c : Char} {rest after more : List Char}
  {mark : JsonMark (Except JsonFault JsonNumber) (Except JsonFault String)}

/-- A word that is scanned whole is scanned as far where more follows it. -/
theorem firstToken_word {letters : List Char}
    {word : JsonMark (Except JsonFault JsonNumber) (Except JsonFault String)}
    (scans : (match scanWord letters rest with
      | .ok rest => (word, some rest)
      | .error fault => (.broken false fault, none)) = (mark, some after)) (more : List Char) :
    mark = word ∧ after.length ≤ rest.length ∧
      scanWord letters (rest ++ more) = .ok (after ++ more) := by
  cases scanned : scanWord letters rest with
  | error fault =>
      rw [scanned] at scans
      cases scans
  | ok left =>
      rw [scanned] at scans
      cases scans
      obtain ⟨shorter, again⟩ := scanWord_append scanned more
      exact ⟨rfl, shorter, again⟩

/-- A token that is scanned whole is scanned as far where more follows it. -/
theorem firstToken_append (scans : firstToken c rest = (mark, some after))
    (ends : EndsNumeral more) :
    after.length ≤ rest.length ∧
      ∃ other, mark.IsLike other ∧ firstToken c (rest ++ more) = (other, some (after ++ more)) := by
  unfold firstToken at scans
  dsimp only at scans
  split at scans
  iterate 6
    · cases scans
      exact ⟨Nat.le_refl _, _, .same _, rfl⟩
  iterate 3
    · obtain ⟨rfl, shorter, again⟩ := firstToken_word scans more
      exact ⟨shorter, _, .same _, by simp [firstToken, again]⟩
  · split at scans <;> cases scans
    next closed =>
      obtain ⟨shorter, again⟩ := textUnits_append closed [] more
      refine ⟨shorter, _, .text _ (decodeUnits (textUnits [] (rest ++ more)).1), ?_⟩
      simp [firstToken, again]
  · split at scans
    · next isNumeral =>
        have begins : c = '-' ∨ isDigit c = true := by simpa using isNumeral
        split at scans <;> cases scans
        next numeral scanned =>
          obtain ⟨shorter, other, again⟩ := scanNumeral_append scanned ends
          refine ⟨Nat.le_of_lt_succ shorter, _, .number _ (other.value (after ++ more)), ?_⟩
          rw [firstToken_numeral begins, ← List.cons_append, again]
    · cases scans

theorem firstToken_unscanned (unscanned : firstToken c rest = (mark, none)) :
    mark = .stray ∨ ∃ asText fault, mark = .broken asText fault := by
  unfold firstToken at unscanned
  dsimp only at unscanned
  split at unscanned
  iterate 6 cases unscanned
  iterate 3
    · split at unscanned <;> cases unscanned
      exact .inr ⟨_, _, rfl⟩
  · split at unscanned <;> cases unscanned <;> exact .inr ⟨_, _, rfl⟩
  · split at unscanned
    · split at unscanned <;> cases unscanned
      exact .inr ⟨_, _, rfl⟩
    · cases unscanned
      exact .inl rfl

end Tokens

/-! ## States -/

section States

variable {ν τ : Type} {outer inner around : List (OpenContainer ν τ)}
  {state other next : JsonState ν τ} {token similar : JsonToken ν τ}

inductive OpenContainer.AreInside (outer : List (OpenContainer ν τ)) :
    List (OpenContainer ν τ) → List (OpenContainer ν τ) → Prop where
  | none : AreInside outer [] outer
  | array {inner around : List (OpenContainer ν τ)} (items others : List (JsonTree ν τ))
      (inside : AreInside outer inner around) :
      AreInside outer (.array items :: inner) (.array others :: around)
  | object {inner around : List (OpenContainer ν τ)} (members others : List (τ × JsonTree ν τ))
      (key otherKey : τ) (inside : AreInside outer inner around) :
      AreInside outer (.object members key :: inner) (.object others otherKey :: around)

inductive JsonState.IsInside (outer : List (OpenContainer ν τ)) :
    JsonState ν τ → JsonState ν τ → Prop where
  | awaitValue {inner around : List (OpenContainer ν τ)} {state : JsonState ν τ}
      (awaits : ∀ token : JsonToken ν τ, token.mark ≠ .closeArray →
        state.step none token = beginValue none around token)
      (inside : OpenContainer.AreInside outer inner around) :
      IsInside outer (.awaitValue inner) state
  | awaitItem {inner around : List (OpenContainer ν τ)} (first : Bool)
      (items others : List (JsonTree ν τ))
      (inside : OpenContainer.AreInside outer inner around) :
      IsInside outer (.awaitItem first items inner) (.awaitItem first others around)
  | awaitKey {inner around : List (OpenContainer ν τ)} (first : Bool)
      (members others : List (τ × JsonTree ν τ))
      (inside : OpenContainer.AreInside outer inner around) :
      IsInside outer (.awaitKey first members inner) (.awaitKey first others around)
  | awaitColon {inner around : List (OpenContainer ν τ)} (members others : List (τ × JsonTree ν τ))
      (key otherKey : τ) (inside : OpenContainer.AreInside outer inner around) :
      IsInside outer (.awaitColon members key inner) (.awaitColon others otherKey around)
  | complete {inner around : List (OpenContainer ν τ)} (tree other : JsonTree ν τ)
      (inside : OpenContainer.AreInside outer inner around) :
      IsInside outer (.complete tree inner) (.complete other around)

theorem beginValue_inside (inside : OpenContainer.AreInside outer inner around)
    (like : token.mark.IsLike similar.mark)
    (steps : JsonState.beginValue none inner token = .ok next) :
    ∃ other, JsonState.beginValue none around similar = .ok other ∧ next.IsInside outer other := by
  obtain ⟨mark, source⟩ := token
  obtain ⟨likeMark, likeSource⟩ := similar
  dsimp only at like
  cases like with
  | same =>
      cases mark with
      | openArray =>
          cases steps
          exact ⟨_, rfl, .awaitItem _ _ _ inside⟩
      | openObject =>
          cases steps
          exact ⟨_, rfl, .awaitKey _ _ _ inside⟩
      | null | bool | number | text =>
          cases steps
          exact ⟨_, rfl, .complete _ _ inside⟩
      | _ => cases steps
  | number | text =>
      cases steps
      exact ⟨_, rfl, .complete _ _ inside⟩

/-- A step inside other containers is the step without them. -/
theorem step_inside (beside : state.IsInside outer other) (similar : JsonToken ν τ)
    (like : token.mark.IsLike similar.mark) (steps : state.step none token = .ok next) :
    ∃ further, other.step none similar = .ok further ∧ next.IsInside outer further := by
  cases beside with
  | awaitValue awaits inside =>
      have goesOn : token.mark ≠ .closeArray := by
        intro closes
        rw [JsonState.step, JsonState.beginValue, closes] at steps
        cases steps
      rw [awaits _ (like.goesOn goesOn)]
      exact beginValue_inside inside like steps
  | awaitItem first items others inside =>
      by_cases closes : token.mark = .closeArray
      · obtain ⟨mark, source⟩ := token
        obtain ⟨likeMark, likeSource⟩ := similar
        dsimp only at closes like
        subst closes
        cases like
        cases first <;> cases steps
        exact ⟨_, rfl, .complete _ _ inside⟩
      · rw [JsonState.step, JsonState.beginItem_eq closes] at steps
        rw [JsonState.step, JsonState.beginItem_eq (like.goesOn closes)]
        exact beginValue_inside (.array items others inside) like steps
  | awaitKey first members others inside =>
      obtain ⟨mark, source⟩ := token
      obtain ⟨likeMark, likeSource⟩ := similar
      dsimp only at like
      cases like with
      | same =>
          cases mark with
          | text key =>
              cases steps
              exact ⟨_, rfl, .awaitColon _ _ _ _ inside⟩
          | closeObject =>
              cases first <;> cases steps
              exact ⟨_, rfl, .complete _ _ inside⟩
          | broken asText fault => cases asText <;> cases steps
          | _ => cases steps
      | number => cases steps
      | text =>
          cases steps
          exact ⟨_, rfl, .awaitColon _ _ _ _ inside⟩
  | awaitColon members others key otherKey inside =>
      obtain ⟨mark, source⟩ := token
      obtain ⟨likeMark, likeSource⟩ := similar
      dsimp only at like
      cases like with
      | same =>
          cases mark <;> cases steps
          exact ⟨_, rfl, .awaitValue (fun _ _ => rfl) (.object _ _ _ _ inside)⟩
      | _ => cases steps
  | complete tree other inside =>
      obtain ⟨mark, source⟩ := token
      obtain ⟨likeMark, likeSource⟩ := similar
      dsimp only at like
      cases inside with
      | none => cases steps
      | array items others inside =>
          cases like with
          | same =>
              cases mark <;> cases steps
              · exact ⟨_, rfl, .complete _ _ inside⟩
              · exact ⟨_, rfl, .awaitItem _ _ _ inside⟩
          | _ => cases steps
      | object members others key otherKey inside =>
          cases like with
          | same =>
              cases mark <;> cases steps
              · exact ⟨_, rfl, .complete _ _ inside⟩
              · exact ⟨_, rfl, .awaitKey _ _ _ inside⟩
          | _ => cases steps

theorem step_stray {limit : Option Nat} (stray : token.mark = .stray) :
    state.step limit token ≠ .ok next := by
  cases state with
  | awaitValue around => simp [JsonState.step, JsonState.beginValue, stray]
  | awaitItem first items around =>
      cases first <;> simp [JsonState.step, JsonState.beginItem, JsonState.beginValue, stray]
  | awaitKey first members around =>
      cases first <;> simp [JsonState.step, JsonState.beginKey, stray]
  | awaitColon members key around => simp [JsonState.step, stray]
  | complete tree around =>
      cases around with
      | nil => simp [JsonState.step, JsonState.afterValue]
      | cons container outer =>
          cases container <;> simp [JsonState.step, JsonState.afterValue, stray]

/-- A tree that is complete on its own is complete inside other containers. -/
theorem finish_inside {tree : JsonTree ν τ} (beside : state.IsInside outer other)
    (finished : state.finish = .ok tree) : ∃ further, other = .complete further outer := by
  cases beside with
  | complete found further inside =>
      cases inside with
      | none => exact ⟨_, rfl⟩
      | _ => cases finished
  | awaitItem first => cases first <;> cases finished
  | awaitKey first => cases first <;> cases finished
  | _ => cases finished

theorem run_cons_eq_ok {limit : Option Nat} {tokens : List (JsonToken ν τ)} {tree : JsonTree ν τ}
    (done : state.run limit (token :: tokens) = .ok tree) :
    ∃ next, state.step limit token = .ok next ∧ next.run limit tokens = .ok tree := by
  rw [JsonState.run] at done
  split at done
  · next next stepped => exact ⟨next, stepped, done⟩
  · cases done

end States

/-! ## Whole texts -/

def IsAccepted (chars : List Char) : Prop :=
  ∃ draft, JsonDraft.read (String.ofList chars) = .ok draft

namespace JsonReading

theorem Leads.blanks {ν τ : Type} {reading : JsonReading ν τ} {blanks rest : List Char}
    (areBlank : ∀ c ∈ blanks, isJsonBlank c = true) (state : JsonState ν τ) :
    reading.Leads state (blanks ++ rest) state rest := by
  intro fuel enough
  refine ⟨fuel, by simp at enough; omega, ?_⟩
  unfold readOn
  cases fuel with
  | zero => rfl
  | succ fuel => simp [tokensWithin, List.dropWhile_append_of_pos areBlank]

variable {outer : List (OpenContainer (Except JsonFault JsonNumber) (Except JsonFault String))}
  {state other : JsonState (Except JsonFault JsonNumber) (Except JsonFault String)}
  {draft : JsonDraft} {fuel : Nat} {chars rest : List Char}

/-- After some blanks there is nothing more, or a token that is scanned whole and taken. -/
theorem run_tokensWithin (done : state.run none (tokensWithin (fuel + 1) chars) = .ok draft) :
    ∃ blanks body, chars = blanks ++ body ∧ (∀ c ∈ blanks, isJsonBlank c = true) ∧
      (body = [] ∧ state.finish = .ok draft ∨
        ∃ c text mark after next, body = c :: text ∧ isJsonBlank c = false ∧
          firstToken c text = (mark, some after) ∧ state.step none ⟨mark, c :: text⟩ = .ok next ∧
          next.run none (tokensWithin fuel after) = .ok draft) := by
  have parts := List.takeWhile_append_dropWhile (p := isJsonBlank) (l := chars)
  have areBlank := List.all_eq_true.mp (List.all_takeWhile (p := isJsonBlank) (l := chars))
  have notBlank := List.head?_dropWhile_not isJsonBlank chars
  rw [tokensWithin] at done
  generalize chars.takeWhile isJsonBlank = blanks at parts areBlank
  generalize chars.dropWhile isJsonBlank = body at parts notBlank done
  refine ⟨blanks, body, parts.symm, areBlank, ?_⟩
  cases body with
  | nil => exact .inl ⟨rfl, done⟩
  | cons c text =>
      dsimp only at done
      cases scans : firstToken c text with
      | mk mark left =>
          rw [scans] at done
          cases left with
          | none =>
              obtain ⟨next, stepped, -⟩ := run_cons_eq_ok done
              rcases firstToken_unscanned scans with stray | ⟨asText, fault, broken⟩
              · exact absurd stepped (step_stray stray)
              · exact absurd stepped (JsonState.step_broken broken)
          | some after =>
              obtain ⟨next, stepped, done⟩ := run_cons_eq_ok done
              exact .inr ⟨c, text, mark, after, next, rfl, notBlank, scans, stepped, done⟩

/-- What is read of a text alone is also read of it inside other containers. -/
theorem leads_of_run (beside : state.IsInside outer other) (enough : chars.length ≤ fuel)
    (done : state.run none (tokensWithin fuel chars) = .ok draft) (ends : EndsNumeral rest) :
    ∃ tree, drafts.Leads other (chars ++ rest) (.complete tree outer) rest := by
  -- Token by token: the tree may change with what follows, what is awaited does not.
  induction fuel generalizing chars state other with
  | zero =>
      cases List.eq_nil_of_length_eq_zero (Nat.le_zero.mp enough)
      obtain ⟨tree, rfl⟩ := finish_inside beside done
      exact ⟨tree, .refl⟩
  | succ fuel ih =>
      obtain ⟨blanks, body, rfl, areBlank, ⟨rfl, finished⟩ |
        ⟨c, text, mark, after, next, rfl, notBlank, scans, stepped, done⟩⟩ := run_tokensWithin done
      · obtain ⟨tree, rfl⟩ := finish_inside beside finished
        rw [List.append_assoc]
        exact ⟨tree, .blanks areBlank _⟩
      · obtain ⟨shorter, likeMark, like, scanned⟩ := firstToken_append scans ends
        obtain ⟨further, stepped, inside⟩ :=
          step_inside beside ⟨likeMark, c :: (text ++ rest)⟩ like stepped
        have fewer : after.length ≤ fuel := by
          simp at enough
          omega
        obtain ⟨tree, leads⟩ := ih inside fewer done
        rw [List.append_assoc]
        refine ⟨tree, (Leads.blanks areBlank other).trans (Leads.trans ?_ leads)⟩
        exact .token notBlank scanned (by simp; omega) stepped

/-- A text that respects the grammar is read wherever a value is awaited. -/
theorem reads_of_isAccepted (accepted : IsAccepted chars) :
    drafts.Reads 0 chars fun _ => True := by
  obtain ⟨draft, isRead⟩ := accepted
  rw [JsonDraft.read, jsonTokens, String.toList_ofList] at isRead
  intro state around rest awaits room ends
  obtain ⟨tree, leads⟩ := leads_of_run (.awaitValue awaits .none) (Nat.le_refl _) isRead ends
  exact ⟨tree, trivial, leads⟩

end JsonReading

end TaskLink
