import Mathlib.Data.List.Forall2
import TaskLink.Proofs.Json.Drafts
import TaskLink.Proofs.Json.WrittenLeaves

/-!
# Reading along a text

Values and drafts are read by one machine, which is followed here along texts
that are put together from the texts of leaves.  Wherever it awaits a value,
the text of one brings it to a state that has the value complete.
-/

namespace TaskLink

/-! ## Texts of containers -/

namespace Json

def listed : List (List Char) → List Char
  | [] => []
  | [text] => text
  | text :: rest => text ++ ',' :: listed rest

def memberText (member : String × List Char) : List Char :=
  quotedChars member.1 ++ ':' :: member.2

def arrayText (items : List (List Char)) : List Char :=
  '[' :: (listed items ++ [']'])

def objectText (members : List (String × List Char)) : List Char :=
  '\x7b' :: (listed (members.map memberText) ++ ['\x7d'])

theorem listed_cons_cons (text next : List Char) (rest : List (List Char)) :
    listed (text :: next :: rest) = text ++ ',' :: listed (next :: rest) :=
  rfl

theorem compactItems_eq (items : List Json) :
    compactItems items = listed (items.map compactChars) := by
  induction items with
  | nil => rfl
  | cons item rest ih =>
      cases rest with
      | nil => rfl
      | cons next later => rw [compactItems, ih] <;> simp [listed]

theorem compactMembers_eq (members : List (String × Json)) :
    compactMembers members =
      listed (members.map fun member => memberText (member.1, member.2.compactChars)) := by
  induction members with
  | nil => rfl
  | cons member rest ih =>
      obtain ⟨key, value⟩ := member
      cases rest with
      | nil => rfl
      | cons next later => rw [compactMembers, ih] <;> simp [listed, memberText]

theorem compactChars_array (items : List Json) :
    compactChars (.array items) = arrayText (items.map compactChars) := by
  rw [compactChars, compactItems_eq, arrayText]

theorem compactChars_object (members : List (String × Json)) :
    compactChars (.object members) =
      objectText (members.map fun member => (member.1, member.2.compactChars)) := by
  rw [compactChars, compactMembers_eq, objectText, List.map_map]
  rfl

end Json

open Json (listed memberText arrayText objectText)

/-! ## Readings -/

def JsonMark.map {ν τ : Type} (number : JsonNumber → ν) (text : String → τ) :
    JsonMark JsonNumber String → JsonMark ν τ
  | .openArray => .openArray
  | .closeArray => .closeArray
  | .openObject => .openObject
  | .closeObject => .closeObject
  | .comma => .comma
  | .colon => .colon
  | .null => .null
  | .bool value => .bool value
  | .number value => .number (number value)
  | .text value => .text (text value)
  | .broken asText fault => .broken asText fault
  | .stray => .stray

/-- What becomes of tokens, and how deep containers may be nested. -/
structure JsonReading (ν τ : Type) where
  settle : DraftToken → JsonToken ν τ
  limit : Option Nat
  number : JsonNumber → ν
  text : String → τ
  settle_toDraft : ∀ (mark : JsonMark JsonNumber String) (source : List Char),
    settle ⟨mark.toDraft, source⟩ = ⟨mark.map number text, source⟩

namespace JsonReading

def values (limit : Nat) : JsonReading JsonNumber String where
  settle := JsonToken.settle
  limit := some limit
  number := id
  text := id
  settle_toDraft mark source := by cases mark <;> rfl

/-- Leaves may be faulty, and depth is not limited. -/
def drafts : JsonReading (Except JsonFault JsonNumber) (Except JsonFault String) where
  settle := id
  limit := none
  number := .ok
  text := .ok
  settle_toDraft mark source := by cases mark <;> rfl

variable {ν τ : Type} (reading : JsonReading ν τ)

/-- What the machine makes of a text from some state on, with a bound on its tokens. -/
def readOn (fuel : Nat) (state : JsonState ν τ) (input : List Char) :
    Except JsonFault (JsonTree ν τ) :=
  state.run reading.limit ((tokensWithin fuel input).map reading.settle)

/--
The machine comes from one state to another while it goes from one input on to
another.  A token has at least one character, so a bound on the tokens that is
enough for an input is enough for what is left of it.
-/
def Leads (state : JsonState ν τ) (input : List Char) (next : JsonState ν τ) (rest : List Char) :
    Prop :=
  ∀ fuel, input.length ≤ fuel →
    ∃ left, rest.length ≤ left ∧ reading.readOn fuel state input = reading.readOn left next rest

/-- A state where any token but a closing bracket begins a value inside some containers. -/
def Awaits (state : JsonState ν τ) (around : List (OpenContainer ν τ)) : Prop :=
  ∀ token : JsonToken ν τ, token.mark ≠ .closeArray →
    state.step reading.limit token = JsonState.beginValue reading.limit around token

def HasRoom (level depth : Nat) : Prop :=
  ∀ limit, reading.limit = some limit → level + depth ≤ limit

/-- Wherever it is awaited, not too deep, a text is read as a tree that is as it should be. -/
def Reads (depth : Nat) (chars : List Char) (means : JsonTree ν τ → Prop) : Prop :=
  ∀ state around rest, reading.Awaits state around → reading.HasRoom around.length depth →
    EndsNumeral rest →
    ∃ tree, means tree ∧ reading.Leads state (chars ++ rest) (.complete tree around) rest

variable {reading} {state middle next : JsonState ν τ} {around outer : List (OpenContainer ν τ)}
  {input between rest more : List Char} {c : Char} {depth : Nat}

/-! ### Steps -/

theorem Leads.refl : reading.Leads state input state input :=
  fun fuel enough => ⟨fuel, enough, rfl⟩

theorem Leads.trans (one : reading.Leads state input middle between)
    (two : reading.Leads middle between next rest) : reading.Leads state input next rest := by
  intro fuel enough
  obtain ⟨left, enough, first⟩ := one fuel enough
  obtain ⟨left, enough, second⟩ := two left enough
  exact ⟨left, enough, first.trans second⟩

/-- One token leads on as it is scanned and taken. -/
theorem Leads.token {mark : JsonMark (Except JsonFault JsonNumber) (Except JsonFault String)}
    (notBlank : isJsonBlank c = false) (scans : firstToken c more = (mark, some rest))
    (shorter : rest.length ≤ more.length)
    (steps : state.step reading.limit (reading.settle ⟨mark, c :: more⟩) = .ok next) :
    reading.Leads state (c :: more) next rest := by
  intro fuel enough
  rw [List.length_cons] at enough
  cases fuel with
  | zero => omega
  | succ left =>
      refine ⟨left, by omega, ?_⟩
      simp [readOn, tokensWithin, notBlank, scans, JsonState.run, steps]

/-- A token without a fault leads on as it is taken in every reading. -/
theorem Leads.sound (mark : JsonMark JsonNumber String) (notBlank : isJsonBlank c = false)
    (scans : firstToken c more = (mark.toDraft, some rest)) (shorter : rest.length ≤ more.length)
    (steps :
      state.step reading.limit ⟨mark.map reading.number reading.text, c :: more⟩ = .ok next) :
    reading.Leads state (c :: more) next rest :=
  .token notBlank scans shorter (by rwa [reading.settle_toDraft])

/-- At the end of the text a complete tree is what was read. -/
theorem Leads.readOn_eq {tree : JsonTree ν τ}
    (leads : reading.Leads state input (.complete tree []) []) {fuel : Nat}
    (enough : input.length ≤ fuel) : reading.readOn fuel state input = .ok tree := by
  obtain ⟨left, -, same⟩ := leads fuel enough
  rw [same]
  cases left <;> rfl

theorem awaits_value : reading.Awaits (.awaitValue around) around :=
  fun _ _ => rfl

theorem awaits_item (first : Bool) (items : List (JsonTree ν τ)) :
    reading.Awaits (.awaitItem first items outer) (.array items :: outer) :=
  fun _ goesOn => JsonState.beginItem_eq goesOn reading.limit first items outer

theorem HasRoom.mono {level lesser : Nat} (room : reading.HasRoom level depth)
    (less : lesser ≤ depth) : reading.HasRoom level lesser := by
  intro limit isLimit
  have enough := room limit isLimit
  omega

theorem HasRoom.inside {level : Nat} (room : reading.HasRoom level (depth + 1)) :
    reading.HasRoom (level + 1) depth := by
  intro limit isLimit
  have enough := room limit isLimit
  omega

theorem HasRoom.mayOpen (room : reading.HasRoom around.length (depth + 1)) :
    JsonState.mayOpen reading.limit around = true := by
  unfold JsonState.mayOpen
  cases isLimit : reading.limit with
  | none => rfl
  | some limit =>
      have enough := room limit isLimit
      exact decide_eq_true (by omega)

theorem Reads.mono {chars : List Char} {means more : JsonTree ν τ → Prop} {greater : Nat}
    (reads : reading.Reads depth chars means) (enough : depth ≤ greater)
    (implies : ∀ tree, means tree → more tree) : reading.Reads greater chars more := by
  intro state around rest awaits room ends
  obtain ⟨tree, isMeant, leads⟩ := reads state around rest awaits (room.mono enough) ends
  exact ⟨tree, implies tree isMeant, leads⟩

/-! ### Leaves -/

theorem reads_null : reading.Reads 0 (Json.compactChars .null) (· = .null) := by
  intro state around rest awaits room ends
  exact ⟨_, rfl, .sound .null rfl rfl (by simp; omega) (awaits _ nofun)⟩

theorem reads_bool (value : Bool) :
    reading.Reads 0 (Json.compactChars (.bool value)) (· = .bool value) := by
  intro state around rest awaits room ends
  refine ⟨_, rfl, ?_⟩
  cases value <;> exact .sound (.bool _) rfl rfl (by simp; omega) (awaits _ nofun)

theorem reads_whole {value : Int} (fits : FitsWord value) :
    reading.Reads 0 (Json.compactChars (.number (.whole value)))
      (· = .number (reading.number (.whole value))) := by
  intro state around rest awaits room ends
  obtain ⟨c, more, digits, notBlank, scans⟩ := firstToken_whole fits ends
  rw [Json.compactChars, JsonNumber.text, digits]
  exact ⟨_, rfl, .sound (.number _) notBlank scans (by simp) (awaits _ nofun)⟩

theorem reads_text (value : String) :
    reading.Reads 0 (Json.compactChars (.text value)) (· = .text (reading.text value)) := by
  intro state around rest awaits room ends
  rw [Json.compactChars, quotedChars, List.cons_append, List.append_assoc]
  exact ⟨_, rfl, .sound (.text _) rfl (firstToken_quoted value rest) (by simp; omega)
    (awaits _ nofun)⟩

/-! ### Arrays -/

/-- Items with commas between them are read up to the bracket after them. -/
theorem leads_items {texts : List (List Char)} {meanings : List (JsonTree ν τ → Prop)}
    (each : List.Forall₂ (reading.Reads depth) texts meanings) (notEmpty : texts ≠ [])
    (room : reading.HasRoom (outer.length + 1) depth) (first : Bool) (done : List (JsonTree ν τ)) :
    ∃ trees, List.Forall₂ (fun means tree => means tree) meanings trees ∧
      reading.Leads (.awaitItem first done outer) (listed texts ++ ']' :: rest)
        (.complete (.array (done.reverse ++ trees)) outer) rest := by
  -- The machine holds what it has read in reverse; each item goes over to `done`.
  induction each generalizing first done with
  | nil => exact absurd rfl notEmpty
  | @cons text means texts meanings reads others ih =>
      cases others with
      | nil =>
          obtain ⟨tree, isMeant, leads⟩ := reads _ _ (']' :: rest) (awaits_item first done) room
            (endsNumeral_cons (by decide) _)
          refine ⟨[tree], .cons isMeant .nil, leads.trans ?_⟩
          refine .sound .closeArray rfl rfl (Nat.le_refl _) ?_
          rw [← List.reverse_cons]
          rfl
      | @cons next _ later _ _ _ =>
          obtain ⟨tree, isMeant, leads⟩ :=
            reads _ _ (',' :: (listed (next :: later) ++ ']' :: rest)) (awaits_item first done)
              room (endsNumeral_cons (by decide) _)
          obtain ⟨trees, areMeant, others⟩ := ih (List.cons_ne_nil _ _) false (tree :: done)
          rw [List.reverse_cons, List.append_assoc, List.singleton_append] at others
          refine ⟨tree :: trees, .cons isMeant areMeant, ?_⟩
          rw [Json.listed_cons_cons, List.append_assoc, List.cons_append]
          refine leads.trans (Leads.trans ?_ others)
          exact .sound .comma rfl rfl (Nat.le_refl _) rfl

theorem reads_array {texts : List (List Char)} {meanings : List (JsonTree ν τ → Prop)}
    (each : List.Forall₂ (reading.Reads depth) texts meanings) :
    reading.Reads (depth + 1) (arrayText texts) fun tree =>
      ∃ trees, tree = .array trees ∧
        List.Forall₂ (fun means tree => means tree) meanings trees := by
  intro state around rest awaits room ends
  rw [arrayText, List.cons_append, List.append_assoc, List.singleton_append]
  have opens : reading.Leads state ('[' :: (listed texts ++ ']' :: rest))
      (.awaitItem true [] around) (listed texts ++ ']' :: rest) := by
    refine .sound .openArray rfl rfl (Nat.le_refl _) ?_
    exact Eq.trans (awaits _ nofun) (if_pos room.mayOpen)
  by_cases empty : texts = []
  · subst empty
    cases each
    refine ⟨_, ⟨[], rfl, .nil⟩, opens.trans ?_⟩
    exact .sound .closeArray rfl rfl (Nat.le_refl _) rfl
  · obtain ⟨trees, areMeant, leads⟩ := leads_items each empty room.inside true []
    exact ⟨_, ⟨trees, rfl, areMeant⟩, opens.trans leads⟩

/-! ### Objects -/

/-- A key, a colon and a value are read as one member. -/
theorem leads_member {member : String × List Char} {means : JsonTree ν τ → Prop}
    (reads : reading.Reads depth member.2 means) (room : reading.HasRoom (outer.length + 1) depth)
    (ends : EndsNumeral rest) (first : Bool) (done : List (τ × JsonTree ν τ)) :
    ∃ tree, means tree ∧ reading.Leads (.awaitKey first done outer) (memberText member ++ rest)
      (.complete tree (.object done (reading.text member.1) :: outer)) rest := by
  obtain ⟨tree, isMeant, leads⟩ :=
    reads (.awaitValue (.object done (reading.text member.1) :: outer)) _ rest awaits_value room
      ends
  refine ⟨tree, isMeant, ?_⟩
  rw [memberText, quotedChars, List.cons_append, List.append_assoc, List.cons_append,
    List.append_assoc]
  have key : reading.Leads (.awaitKey first done outer)
      ('"' :: (member.1.toList.flatMap escapedChar ++ ('"' :: ':' :: (member.2 ++ rest))))
      (.awaitColon done (reading.text member.1) outer) (':' :: (member.2 ++ rest)) :=
    .sound (.text member.1) rfl (firstToken_quoted member.1 _) (by simp; omega) rfl
  exact key.trans (Leads.trans (.sound .colon rfl rfl (Nat.le_refl _) rfl) leads)

/-- Members with commas between them are read up to the brace after them. -/
theorem leads_members {members : List (String × List Char)} {meanings : List (JsonTree ν τ → Prop)}
    (each : List.Forall₂ (fun member => reading.Reads depth member.2) members meanings)
    (notEmpty : members ≠ []) (room : reading.HasRoom (outer.length + 1) depth) (first : Bool)
    (done : List (τ × JsonTree ν τ)) :
    ∃ trees, List.Forall₂ (fun means tree => means tree) meanings trees ∧
      reading.Leads (.awaitKey first done outer) (listed (members.map memberText) ++ '\x7d' :: rest)
        (.complete (.object (done.reverse ++
          List.zipWith (fun member tree => (reading.text member.1, tree)) members trees)) outer)
        rest := by
  induction each generalizing first done with
  | nil => exact absurd rfl notEmpty
  | @cons member means members meanings reads others ih =>
      cases others with
      | nil =>
          obtain ⟨tree, isMeant, leads⟩ := leads_member reads room
            (endsNumeral_cons (c := '\x7d') (by decide) rest) first done
          refine ⟨[tree], .cons isMeant .nil, leads.trans ?_⟩
          refine .sound .closeObject rfl rfl (Nat.le_refl _) ?_
          rw [List.zipWith_cons_cons, List.zipWith_nil_left, ← List.reverse_cons]
          rfl
      | @cons next _ later _ _ _ =>
          obtain ⟨tree, isMeant, leads⟩ := leads_member reads room
            (endsNumeral_cons (c := ',') (by decide)
              (listed ((next :: later).map memberText) ++ '\x7d' :: rest)) first done
          obtain ⟨trees, areMeant, others⟩ :=
            ih (List.cons_ne_nil _ _) false ((reading.text member.1, tree) :: done)
          rw [List.reverse_cons, List.append_assoc, List.singleton_append] at others
          refine ⟨tree :: trees, .cons isMeant areMeant, ?_⟩
          rw [List.map_cons, List.map_cons, Json.listed_cons_cons, ← List.map_cons,
            List.append_assoc, List.cons_append]
          refine leads.trans (Leads.trans ?_ others)
          exact .sound .comma rfl rfl (Nat.le_refl _) rfl

theorem reads_object {members : List (String × List Char)} {meanings : List (JsonTree ν τ → Prop)}
    (each : List.Forall₂ (fun member => reading.Reads depth member.2) members meanings) :
    reading.Reads (depth + 1) (objectText members) fun tree =>
      ∃ trees, tree = .object
          (List.zipWith (fun member tree => (reading.text member.1, tree)) members trees) ∧
        List.Forall₂ (fun means tree => means tree) meanings trees := by
  intro state around rest awaits room ends
  rw [objectText, List.cons_append, List.append_assoc, List.singleton_append]
  have opens : reading.Leads state
      ('\x7b' :: (listed (members.map memberText) ++ '\x7d' :: rest))
      (.awaitKey true [] around) (listed (members.map memberText) ++ '\x7d' :: rest) := by
    refine .sound .openObject rfl rfl (Nat.le_refl _) ?_
    exact Eq.trans (awaits _ nofun) (if_pos room.mayOpen)
  by_cases empty : members = []
  · subst empty
    cases each
    refine ⟨_, ⟨[], rfl, .nil⟩, opens.trans ?_⟩
    exact .sound .closeObject rfl rfl (Nat.le_refl _) rfl
  · obtain ⟨trees, areMeant, leads⟩ := leads_members each empty room.inside true []
    exact ⟨_, ⟨trees, rfl, areMeant⟩, opens.trans leads⟩

/-! ### Whole texts -/

/-- A text that is read wherever a value is awaited is also read alone. -/
theorem Reads.readOn {chars : List Char} {means : JsonTree ν τ → Prop}
    (reads : reading.Reads depth chars means) (room : reading.HasRoom 0 depth) :
    ∃ tree, means tree ∧
      reading.readOn chars.length (.awaitValue []) chars = .ok tree := by
  obtain ⟨tree, isMeant, leads⟩ := reads _ [] [] awaits_value room endsNumeral_nil
  rw [List.append_nil] at leads
  exact ⟨tree, isMeant, leads.readOn_eq (Nat.le_refl _)⟩

end JsonReading

end TaskLink
