import TaskLink.Json.Draft

/-!
# Values and drafts of one text

A text is read in two ways: as a value, with every leaf decoded and a limit on
the depth, and as a draft, by the grammar alone.  Whatever is read as a value
is read as a draft too, and the draft is the same tree with every leaf marked
as free of faults.  Both readings run the same machine, so this is shown token
by token.
-/

namespace TaskLink

/-! ## Drafts without faults -/

namespace JsonTree

mutual

def toDraft : Json → JsonDraft
  | .null => .null
  | .bool value => .bool value
  | .number value => .number (.ok value)
  | .text value => .text (.ok value)
  | .array items => .array (itemsToDraft items)
  | .object members => .object (membersToDraft members)

def itemsToDraft : List Json → List JsonDraft
  | [] => []
  | item :: rest => item.toDraft :: itemsToDraft rest

def membersToDraft : List (String × Json) → List (Except JsonFault String × JsonDraft)
  | [] => []
  | (key, value) :: rest => (.ok key, value.toDraft) :: membersToDraft rest

end

def memberToDraft (member : String × Json) : Except JsonFault String × JsonDraft :=
  (.ok member.1, member.2.toDraft)

theorem itemsToDraft_eq_map (items : List Json) : itemsToDraft items = items.map toDraft := by
  induction items with
  | nil => rfl
  | cons item rest ih => rw [itemsToDraft, ih, List.map_cons]

theorem membersToDraft_eq_map (members : List (String × Json)) :
    membersToDraft members = members.map memberToDraft := by
  induction members with
  | nil => rfl
  | cons member rest ih => rw [membersToDraft, ih, List.map_cons, memberToDraft]

@[simp]
theorem toDraft_array (items : List Json) :
    toDraft (.array items) = .array (items.map toDraft) := by
  rw [toDraft, itemsToDraft_eq_map]

@[simp]
theorem toDraft_object (members : List (String × Json)) :
    toDraft (.object members) = .object (members.map memberToDraft) := by
  rw [toDraft, membersToDraft_eq_map]

/-! ### What a draft without faults stands for -/

mutual

/-- Decoding the draft of a value gives the value back. -/
theorem resolve?_toDraft : ∀ value : Json, JsonDraft.resolve? value.toDraft = some value
  | .null | .bool _ | .number _ | .text _ => rfl
  | .array items => by
      rw [toDraft, JsonDraft.resolve?, resolveItems?_itemsToDraft items, Option.map_some]
  | .object members => by
      rw [toDraft, JsonDraft.resolve?, resolveMembers?_membersToDraft members, Option.map_some]

theorem resolveItems?_itemsToDraft :
    ∀ items : List Json, JsonDraft.resolveItems? (itemsToDraft items) = some items
  | [] => rfl
  | item :: rest => by
      rw [itemsToDraft, JsonDraft.resolveItems?, resolve?_toDraft item,
        resolveItems?_itemsToDraft rest]

theorem resolveMembers?_membersToDraft :
    ∀ members : List (String × Json),
      JsonDraft.resolveMembers? (membersToDraft members) = some members
  | [] => rfl
  | (key, value) :: rest => by
      rw [membersToDraft, JsonDraft.resolveMembers?, resolve?_toDraft value,
        resolveMembers?_membersToDraft rest]

end

mutual

@[simp]
theorem depth_toDraft : ∀ value : Json, depth value.toDraft = value.depth
  | .null | .bool _ | .number _ | .text _ => rfl
  | .array items => by rw [toDraft, depth, depth, itemsDepth_itemsToDraft items]
  | .object members => by rw [toDraft, depth, depth, membersDepth_membersToDraft members]

theorem itemsDepth_itemsToDraft :
    ∀ items : List Json, itemsDepth (itemsToDraft items) = itemsDepth items
  | [] => rfl
  | item :: rest => by
      rw [itemsToDraft, itemsDepth, itemsDepth, depth_toDraft item, itemsDepth_itemsToDraft rest]

theorem membersDepth_membersToDraft :
    ∀ members : List (String × Json), membersDepth (membersToDraft members) = membersDepth members
  | [] => rfl
  | (key, value) :: rest => by
      rw [membersToDraft, membersDepth, membersDepth, depth_toDraft value,
        membersDepth_membersToDraft rest]

end

/-- A draft without faults is a text exactly if its value is one. -/
theorem text?_toDraft (value : Json) : JsonDraft.text? value.toDraft = value.text? := by
  cases value with
  | array items => rw [toDraft]; rfl
  | object members => rw [toDraft]; rfl
  | _ => rfl

end JsonTree

/-! ## The machine on both kinds of leaves -/

def OpenContainer.toDraft :
    OpenContainer JsonNumber String →
      OpenContainer (Except JsonFault JsonNumber) (Except JsonFault String)
  | .array items => .array (items.map JsonTree.toDraft)
  | .object members key => .object (members.map JsonTree.memberToDraft) (.ok key)

namespace JsonState

def toDraft :
    JsonState JsonNumber String → JsonState (Except JsonFault JsonNumber) (Except JsonFault String)
  | .awaitValue around => .awaitValue (around.map OpenContainer.toDraft)
  | .awaitItem first items around =>
      .awaitItem first (items.map JsonTree.toDraft) (around.map OpenContainer.toDraft)
  | .awaitKey first members around =>
      .awaitKey first (members.map JsonTree.memberToDraft) (around.map OpenContainer.toDraft)
  | .awaitColon members key around =>
      .awaitColon (members.map JsonTree.memberToDraft) (.ok key) (around.map OpenContainer.toDraft)
  | .complete tree around => .complete tree.toDraft (around.map OpenContainer.toDraft)

end JsonState

/-! ### Tokens -/

def JsonMark.toDraft :
    JsonMark JsonNumber String → JsonMark (Except JsonFault JsonNumber) (Except JsonFault String)
  | .openArray => .openArray
  | .closeArray => .closeArray
  | .openObject => .openObject
  | .closeObject => .closeObject
  | .comma => .comma
  | .colon => .colon
  | .null => .null
  | .bool value => .bool value
  | .number value => .number (.ok value)
  | .text value => .text (.ok value)
  | .broken asText fault => .broken asText fault
  | .stray => .stray

namespace JsonToken

def toDraft (token : SettledToken) : DraftToken :=
  ⟨token.mark.toDraft, token.source⟩

/-- Decoding breaks a token, or its leaf was free of faults. -/
theorem settle_cases (token : DraftToken) :
    (∃ asText fault, token.settle.mark = .broken asText fault) ∨
      token.settle.toDraft = token := by
  obtain ⟨mark, source⟩ := token
  cases mark with
  | number value =>
      cases value with
      | ok value => exact Or.inr rfl
      | error fault => exact Or.inl ⟨false, fault, rfl⟩
  | text value =>
      cases value with
      | ok value => exact Or.inr rfl
      | error fault => exact Or.inl ⟨true, fault, rfl⟩
  | broken asText fault => exact Or.inl ⟨asText, fault, rfl⟩
  | _ => exact Or.inr rfl

end JsonToken

namespace JsonState

variable {limit : Option Nat} {around : List (OpenContainer JsonNumber String)}
  {token : SettledToken} {state next : JsonState JsonNumber String}

/-! ### One step -/

theorem step_broken {ν τ : Type} {token : JsonToken ν τ} {state next : JsonState ν τ}
    {asText : Bool} {fault : JsonFault} (broken : token.mark = .broken asText fault) :
    state.step limit token ≠ .ok next := by
  cases state with
  | awaitValue around => simp [step, beginValue, broken]
  | awaitItem first items around => cases first <;> simp [step, beginItem, beginValue, broken]
  | awaitKey first members around =>
      cases first <;> cases asText <;> simp [step, beginKey, broken]
  | awaitColon members key around => simp [step, broken]
  | complete tree around =>
      cases around with
      | nil => simp [step, afterValue]
      | cons container outer => cases container <;> simp [step, afterValue, broken]

theorem beginValue_toDraft (stepped : beginValue limit around token = .ok next) :
    beginValue none (around.map OpenContainer.toDraft) token.toDraft = .ok next.toDraft := by
  obtain ⟨mark, source⟩ := token
  unfold beginValue at stepped
  cases mark with
  | openArray | openObject =>
      dsimp only at stepped
      split at stepped <;> cases stepped
      rfl
  | _ => cases stepped <;> rfl

/-- A token that does not end an array begins its next item. -/
theorem beginItem_eq {ν τ : Type} {token : JsonToken ν τ} (goesOn : token.mark ≠ .closeArray)
    (limit : Option Nat) (first : Bool) (items : List (JsonTree ν τ))
    (around : List (OpenContainer ν τ)) :
    beginItem limit first items around token = beginValue limit (.array items :: around) token := by
  unfold beginItem
  split
  · contradiction
  · contradiction
  · rfl

theorem beginItem_toDraft {first : Bool} {items : List Json}
    (stepped : beginItem limit first items around token = .ok next) :
    beginItem none first (items.map JsonTree.toDraft) (around.map OpenContainer.toDraft)
      token.toDraft = .ok next.toDraft := by
  by_cases closes : token.mark = .closeArray
  · obtain ⟨mark, source⟩ := token
    subst closes
    cases first <;> cases stepped
    simp [beginItem, JsonToken.toDraft, JsonMark.toDraft, toDraft]
  · have goesOn : token.toDraft.mark ≠ .closeArray := by
      obtain ⟨mark, source⟩ := token
      cases mark <;> simp_all [JsonToken.toDraft, JsonMark.toDraft]
    rw [beginItem_eq closes] at stepped
    rw [beginItem_eq goesOn]
    exact beginValue_toDraft stepped

theorem beginKey_toDraft {first : Bool} {members : List (String × Json)}
    (stepped : beginKey first members around token = .ok next) :
    beginKey first (members.map JsonTree.memberToDraft) (around.map OpenContainer.toDraft)
      token.toDraft = .ok next.toDraft := by
  obtain ⟨mark, source⟩ := token
  cases mark with
  | text key =>
      cases stepped
      rfl
  | closeObject =>
      cases first <;> cases stepped
      simp [beginKey, JsonToken.toDraft, JsonMark.toDraft, toDraft]
  | broken asText fault => cases asText <;> cases stepped
  | _ => cases stepped

theorem afterValue_toDraft {tree : Json}
    (stepped : afterValue tree around token = .ok next) :
    afterValue tree.toDraft (around.map OpenContainer.toDraft) token.toDraft = .ok next.toDraft := by
  obtain ⟨mark, source⟩ := token
  cases around with
  | nil => cases stepped
  | cons container outer =>
      cases container <;> cases mark <;> cases stepped <;>
        simp [afterValue, JsonToken.toDraft, JsonMark.toDraft, toDraft, OpenContainer.toDraft,
          JsonTree.memberToDraft]

/-- A step on a decoded token is a step on the token as it was, without any limit. -/
theorem step_settle {token : DraftToken} (stepped : state.step limit token.settle = .ok next) :
    state.toDraft.step none token = .ok next.toDraft := by
  obtain ⟨asText, fault, broken⟩ | whole := token.settle_cases
  · exact absurd stepped (step_broken broken)
  · rw [← whole]
    cases state with
    | awaitValue around => exact beginValue_toDraft stepped
    | awaitItem first items around => exact beginItem_toDraft stepped
    | awaitKey first members around => exact beginKey_toDraft stepped
    | awaitColon members key around =>
        unfold step at stepped
        generalize token.settle = settled at stepped
        obtain ⟨mark, source⟩ := settled
        cases mark <;> cases stepped
        rfl
    | complete tree around => exact afterValue_toDraft stepped

/-! ### Whole runs -/

theorem finish_toDraft {tree : Json} (finished : state.finish = .ok tree) :
    state.toDraft.finish = .ok tree.toDraft := by
  cases state with
  | complete found around =>
      cases around with
      | nil =>
          cases finished
          rfl
      | cons container outer => cases container <;> cases finished
  | awaitItem first items around => cases first <;> cases finished
  | awaitKey first members around => cases first <;> cases finished
  | _ => cases finished

/-- A text that is read with its leaves decoded is also read without decoding them. -/
theorem run_settle {tokens : List DraftToken} {tree : Json}
    (done : run limit state (tokens.map JsonToken.settle) = .ok tree) :
    run none state.toDraft tokens = .ok tree.toDraft := by
  induction tokens generalizing state with
  | nil => exact finish_toDraft done
  | cons token rest ih =>
      rw [List.map_cons, run] at done
      split at done
      · next next stepped =>
          rw [run, step_settle stepped]
          exact ih done
      · cases done

end JsonState

/-! ## Depth -/

namespace JsonTree

variable {ν τ : Type}

theorem itemsDepth_le_iff {items : List (JsonTree ν τ)} {bound : Nat} :
    itemsDepth items ≤ bound ↔ ∀ item ∈ items, item.depth ≤ bound := by
  induction items with
  | nil => simp [itemsDepth]
  | cons item rest ih => rw [itemsDepth, Nat.max_le, ih, List.forall_mem_cons]

theorem membersDepth_le_iff {members : List (τ × JsonTree ν τ)} {bound : Nat} :
    membersDepth members ≤ bound ↔ ∀ member ∈ members, member.2.depth ≤ bound := by
  induction members with
  | nil => simp [membersDepth]
  | cons member rest ih =>
      obtain ⟨key, value⟩ := member
      rw [membersDepth, Nat.max_le, ih, List.forall_mem_cons]

theorem itemsDepth_reverse (items : List (JsonTree ν τ)) :
    itemsDepth items.reverse = itemsDepth items := by
  have same (bound : Nat) : itemsDepth items.reverse ≤ bound ↔ itemsDepth items ≤ bound := by
    simp only [itemsDepth_le_iff, List.mem_reverse]
  exact Nat.le_antisymm ((same _).mpr (Nat.le_refl _)) ((same _).mp (Nat.le_refl _))

theorem membersDepth_reverse (members : List (τ × JsonTree ν τ)) :
    membersDepth members.reverse = membersDepth members := by
  have same (bound : Nat) :
      membersDepth members.reverse ≤ bound ↔ membersDepth members ≤ bound := by
    simp only [membersDepth_le_iff, List.mem_reverse]
  exact Nat.le_antisymm ((same _).mpr (Nat.le_refl _)) ((same _).mp (Nat.le_refl _))

end JsonTree

namespace OpenContainer

variable {ν τ : Type} {limit : Nat} {around : List (OpenContainer ν τ)}

def contentDepth : OpenContainer ν τ → Nat
  | .array items => JsonTree.itemsDepth items
  | .object members _ => JsonTree.membersDepth members

/-- What open containers hold is not nested deeper than a limit, they themselves counted. -/
def AreWithin (limit : Nat) : List (OpenContainer ν τ) → Prop
  | [] => True
  | container :: outer =>
      container.contentDepth + outer.length + 1 ≤ limit ∧ AreWithin limit outer

theorem AreWithin.length_le (within : AreWithin limit around) : around.length ≤ limit := by
  cases around with
  | nil => exact Nat.zero_le limit
  | cons container outer =>
      have room := within.1
      rw [List.length_cons]
      omega

end OpenContainer

namespace JsonState

open JsonTree OpenContainer

variable {ν τ : Type} {limit : Nat} {around : List (OpenContainer ν τ)} {token : JsonToken ν τ}
  {state next : JsonState ν τ}

def IsWithin (limit : Nat) : JsonState ν τ → Prop
  | .awaitValue around => AreWithin limit around
  | .awaitItem _ items around => AreWithin limit (.array items :: around)
  | .awaitKey _ members around =>
      membersDepth members + around.length + 1 ≤ limit ∧ AreWithin limit around
  | .awaitColon members key around => AreWithin limit (.object members key :: around)
  | .complete tree around => tree.depth + around.length ≤ limit ∧ AreWithin limit around

theorem beginValue_isWithin (within : AreWithin limit around)
    (stepped : beginValue (some limit) around token = .ok next) : next.IsWithin limit := by
  have room := within.length_le
  obtain ⟨mark, source⟩ := token
  unfold beginValue at stepped
  cases mark with
  | openArray | openObject =>
      dsimp only at stepped
      split at stepped <;> cases stepped
      next mayOpen =>
        have room : around.length < limit := of_decide_eq_true mayOpen
        refine ⟨?_, within⟩
        simp only [contentDepth, itemsDepth, membersDepth]
        omega
  | null | bool | number | text =>
      cases stepped
      exact ⟨by simpa [depth] using room, within⟩
  | _ => cases stepped

theorem step_isWithin (within : state.IsWithin limit)
    (stepped : state.step (some limit) token = .ok next) : next.IsWithin limit := by
  cases state with
  | awaitValue around => exact beginValue_isWithin within stepped
  | awaitItem first items around =>
      by_cases closes : token.mark = .closeArray
      · obtain ⟨mark, source⟩ := token
        subst closes
        cases first <;> cases stepped
        obtain ⟨room, outside⟩ := within
        refine ⟨?_, outside⟩
        rw [depth, itemsDepth_reverse]
        simp only [contentDepth] at room
        omega
      · rw [step, beginItem_eq closes] at stepped
        exact beginValue_isWithin within stepped
  | awaitKey first members around =>
      obtain ⟨room, outside⟩ := within
      obtain ⟨mark, source⟩ := token
      cases mark with
      | text key =>
          cases stepped
          exact ⟨room, outside⟩
      | closeObject =>
          cases first <;> cases stepped
          refine ⟨?_, outside⟩
          rw [depth, membersDepth_reverse]
          omega
      | broken asText fault => cases asText <;> cases stepped
      | _ => cases stepped
  | awaitColon members key around =>
      obtain ⟨mark, source⟩ := token
      cases mark <;> cases stepped
      exact within
  | complete tree around =>
      obtain ⟨room, within⟩ := within
      obtain ⟨mark, source⟩ := token
      cases around with
      | nil => cases stepped
      | cons container outer =>
          obtain ⟨held, outside⟩ := within
          rw [List.length_cons] at room
          cases container with
          | array items =>
              have fits : itemsDepth (tree :: items) + outer.length + 1 ≤ limit := by
                simp only [contentDepth] at held
                simp only [itemsDepth, Nat.max_def]
                split <;> omega
              cases mark <;> cases stepped
              · refine ⟨?_, outside⟩
                rw [depth, itemsDepth_reverse]
                omega
              · exact ⟨fits, outside⟩
          | object members key =>
              have fits : membersDepth ((key, tree) :: members) + outer.length + 1 ≤ limit := by
                simp only [contentDepth] at held
                simp only [membersDepth, Nat.max_def]
                split <;> omega
              cases mark <;> cases stepped
              · refine ⟨?_, outside⟩
                rw [depth, membersDepth_reverse]
                omega
              · exact ⟨fits, outside⟩

/-- A value that is read under a limit is not nested deeper than it. -/
theorem run_isWithin {tokens : List (JsonToken ν τ)} {tree : JsonTree ν τ}
    (within : state.IsWithin limit) (done : run (some limit) state tokens = .ok tree) :
    tree.depth ≤ limit := by
  induction tokens generalizing state with
  | nil =>
      cases state with
      | complete found around =>
          cases around with
          | nil =>
              cases done
              exact within.1
          | cons container outer => cases container <;> cases done
      | awaitItem first items around => cases first <;> cases done
      | awaitKey first members around => cases first <;> cases done
      | _ => cases done
  | cons token rest ih =>
      rw [run] at done
      split at done
      · next next stepped => exact ih (step_isWithin within stepped) done
      · cases done

end JsonState

/-! ## Texts -/

theorem eq_ok_of_toOption {ε α : Type} {result : Except ε α} {value : α}
    (isValue : result.toOption = some value) : result = .ok value := by
  cases result with
  | error error => cases isValue
  | ok found =>
      cases isValue
      rfl

namespace Json

/-- The value of a text as it is written: members in their order, repeated keys kept apart. -/
def written (text : String) : Except JsonFault Json :=
  JsonState.run (some jsonDepthLimit) (.awaitValue [])
    ((jsonTokens text.toList).map JsonToken.settle)

variable {text : String} {tree : Json}

/-- Reading a value puts what is written into canonical form. -/
theorem read_eq (text : String) : read text = (written text).map JsonTree.canonical := by
  unfold read written
  cases JsonState.run (some jsonDepthLimit) (.awaitValue [])
      ((jsonTokens text.toList).map JsonToken.settle) <;> rfl

theorem exists_written_of_read? (isRead : read? text = some tree) :
    ∃ raw, written text = .ok raw ∧ tree = raw.canonical := by
  rw [read?, read_eq] at isRead
  cases isWritten : written text with
  | error fault =>
      rw [isWritten] at isRead
      cases isRead
  | ok raw =>
      rw [isWritten] at isRead
      exact ⟨raw, rfl, (Option.some.inj isRead).symm⟩

theorem read?_of_written (isWritten : written text = .ok tree) :
    read? text = some tree.canonical := by
  rw [read?, read_eq, isWritten]
  rfl

theorem depth_of_written (isWritten : written text = .ok tree) :
    tree.depth ≤ jsonDepthLimit := by
  have within : JsonState.IsWithin jsonDepthLimit (.awaitValue [] : JsonState JsonNumber String) :=
    trivial
  exact JsonState.run_isWithin within isWritten

/-- The draft of a text that is read as a value has no faults. -/
theorem draft_of_written (isWritten : written text = .ok tree) :
    JsonDraft.read text = .ok tree.toDraft :=
  JsonState.run_settle isWritten

end Json

end TaskLink
