import TaskLink.Proofs.Json.Drafts
import TaskLink.Proofs.Json.Members
import TaskLink.Session.Heartbeat

/-!
# The two readings of a heartbeat

The identity of a session is taken from the value tree of its heartbeat, its
status from a record that passes over what it does not know.  Where the tree
can be read and neither field of the record is repeated, the record is what
the tree says.
-/

namespace TaskLink

/-! ## Fields of drafts -/

namespace JsonDraft

variable {key : String} {members : List (String × Json)}

theorem keyed?_memberToDraft (members : List (String × Json)) :
    keyed? (members.map JsonTree.memberToDraft) =
      some (members.map fun member => (member.1, member.2.toDraft)) := by
  induction members with
  | nil => rfl
  | cons member rest ih =>
      rw [List.map_cons, JsonTree.memberToDraft, keyed?, ih]
      rfl

/-- An unrepeated field of a draft is the draft of what stands under its key. -/
theorem field?_toDraft (once : JsonTree.IsUnrepeated key members) :
    field? key (members.map fun member => (member.1, member.2.toDraft)) =
      some ((JsonTree.find? key members).map JsonTree.toDraft) := by
  rw [field?, List.filter_map]
  have kept := JsonTree.filter_of_isUnrepeated once
  change members.filter ((fun member => member.1 == key) ∘
    fun member : String × Json => (member.1, member.2.toDraft)) = _ at kept
  rw [kept]
  cases JsonTree.find? key members <;> rfl

/-- A draft without faults stands for its value, as far as there is room for it. -/
theorem value?_toDraft {value : Json} {room : Nat} (fits : value.depth ≤ room) :
    value? room value.toDraft = some value.canonical := by
  rw [value?, JsonTree.depth_toDraft, if_pos fits, JsonTree.resolve?_toDraft, Option.map_some]

end JsonDraft

/-! ## The record and the tree -/

namespace Heartbeat

/-- The status in a value tree: empty if it is left out, none if it is no text. -/
def statusIn? (tree : Json) : Option String :=
  match tree.member? "status" with
  | none => some ""
  | some value => value.text?

def taskStateIn (tree : Json) : Json :=
  (tree.member? "taskstate").getD .null

theorem statusIn?_eq_some_iff {tree : Json} {status : String} :
    statusIn? tree = some status ↔
      (tree.member? "status" = none ∧ status = "") ∨
        tree.member? "status" = some (.text status) := by
  unfold statusIn?
  cases tree.member? "status" with
  | none => simp [eq_comm]
  | some value => cases value <;> simp [JsonTree.text?]

theorem statusIn?_isSome_iff (tree : Json) :
    (statusIn? tree).isSome ↔
      tree.member? "status" = none ∨ ∃ status, tree.member? "status" = some (.text status) := by
  simp only [Option.isSome_iff_exists, statusIn?_eq_some_iff, exists_or, exists_and_left,
    exists_eq, and_true]

theorem taskStateIn_cases (tree : Json) :
    (tree.member? "taskstate" = none ∧ taskStateIn tree = .null) ∨
      tree.member? "taskstate" = some (taskStateIn tree) := by
  unfold taskStateIn
  cases tree.member? "taskstate" with
  | none => exact Or.inl ⟨rfl, rfl⟩
  | some value => exact Or.inr rfl

end Heartbeat

namespace HeartbeatStatus

variable {heartbeat : String} {members : List (String × Json)}

/-- The record in the draft of an object is read from the members of the object. -/
theorem ofDraft?_toDraft (shallow : JsonTree.depth (.object members : Json) ≤ jsonDepthLimit)
    (statusOnce : JsonTree.IsUnrepeated "status" members)
    (taskStateOnce : JsonTree.IsUnrepeated "taskstate" members) :
    ofDraft? (JsonTree.toDraft (.object members)) =
      (Heartbeat.statusIn? (JsonTree.canonical (.object members))).map
        (⟨·, Heartbeat.taskStateIn (JsonTree.canonical (.object members))⟩) := by
  have fields :
      JsonDraft.fields? ["status", "taskstate"] (JsonTree.toDraft (.object members)) =
        some [(JsonTree.find? "status" members).map JsonTree.toDraft,
          (JsonTree.find? "taskstate" members).map JsonTree.toDraft] := by
    rw [JsonTree.toDraft_object, JsonDraft.fields?, JsonDraft.namedFields?,
      JsonDraft.keyed?_memberToDraft]
    simp [JsonDraft.field?_toDraft statusOnce, JsonDraft.field?_toDraft taskStateOnce]
  have room (value : Json) (found : JsonTree.find? "taskstate" members = some value) :
      value.depth ≤ jsonDepthLimit - 1 := by
    have inner := JsonTree.depth_of_find? found
    rw [JsonTree.depth] at shallow
    omega
  rw [ofDraft?, fields, Heartbeat.statusIn?, Heartbeat.taskStateIn,
    JsonTree.member?_canonical statusOnce, JsonTree.member?_canonical taskStateOnce]
  cases JsonTree.find? "status" members with
  | none =>
      cases found : JsonTree.find? "taskstate" members with
      | none => rfl
      | some value => simp [JsonDraft.value?_toDraft (room value found)]
  | some status =>
      have asText := JsonTree.text?_toDraft status
      have canonicalText := JsonTree.text?_canonical status
      cases found : JsonTree.find? "taskstate" members with
      | none =>
          simp only [Option.map_some, Option.map_none, asText, canonicalText]
          cases status.text? <;> rfl
      | some value =>
          have read := JsonDraft.value?_toDraft (room value found)
          simp only [Option.map_some, asText, canonicalText, read]
          cases status.text? <;> rfl

/-- The record of a heartbeat is what its value tree says. -/
theorem read?_of_written (written : Json.written heartbeat = .ok (.object members))
    (statusOnce : JsonTree.IsUnrepeated "status" members)
    (taskStateOnce : JsonTree.IsUnrepeated "taskstate" members) :
    read? heartbeat =
      (Heartbeat.statusIn? (JsonTree.canonical (.object members))).map
        (⟨·, Heartbeat.taskStateIn (JsonTree.canonical (.object members))⟩) := by
  rw [read?, Json.draft_of_written written]
  exact ofDraft?_toDraft (Json.depth_of_written written) statusOnce taskStateOnce

end HeartbeatStatus

namespace Heartbeat

variable {heartbeat : String} {members : List (String × Json)}

/-- A heartbeat is alive if its record can be read and reports a status that is long enough. -/
theorem isAlive_iff (heartbeat : String) :
    isAlive heartbeat = true ↔
      ∃ report, HeartbeatStatus.read? heartbeat = some report ∧
        2 ≤ report.status.length ∧ report.status ≠ "lost" := by
  unfold isAlive
  cases HeartbeatStatus.read? heartbeat with
  | none => simp
  | some report =>
      simp [HeartbeatStatus.isAlive, lostStatus, Nat.succ_le_iff]

/--
The two readings of a heartbeat agree.  If its value tree can be read, is an
object, and neither field of the record is repeated in it, then the record can
be read exactly if the tree's status is left out or a text; the record holds
that status and the tree's task state; and the session is alive exactly if the
tree's status is a text of two characters or more that is not `lost`.
-/
theorem readings_agree (written : Json.written heartbeat = .ok (.object members))
    (statusOnce : JsonTree.IsUnrepeated "status" members)
    (taskStateOnce : JsonTree.IsUnrepeated "taskstate" members) :
    ∃ tree, Json.read? heartbeat = some tree ∧
      ((HeartbeatStatus.read? heartbeat).isSome ↔
        tree.member? "status" = none ∨ ∃ status, tree.member? "status" = some (.text status)) ∧
      (∀ report, HeartbeatStatus.read? heartbeat = some report →
        ((tree.member? "status" = none ∧ report.status = "") ∨
          tree.member? "status" = some (.text report.status)) ∧
        ((tree.member? "taskstate" = none ∧ report.taskState = .null) ∨
          tree.member? "taskstate" = some report.taskState)) ∧
      (isAlive heartbeat = true ↔
        ∃ status, tree.member? "status" = some (.text status) ∧ 2 ≤ status.length ∧
          status ≠ "lost") := by
  have record := HeartbeatStatus.read?_of_written written statusOnce taskStateOnce
  refine ⟨_, Json.read?_of_written written, ?_, ?_, ?_⟩
  · rw [record, Option.isSome_map]
    exact statusIn?_isSome_iff _
  · intro report found
    rw [record, Option.map_eq_some_iff] at found
    obtain ⟨status, isStatus, rfl⟩ := found
    exact ⟨statusIn?_eq_some_iff.mp isStatus, taskStateIn_cases _⟩
  · rw [isAlive_iff]
    constructor
    · rintro ⟨report, found, long, notLost⟩
      rw [record, Option.map_eq_some_iff] at found
      obtain ⟨status, isStatus, rfl⟩ := found
      obtain ⟨-, rfl⟩ | isText := statusIn?_eq_some_iff.mp isStatus
      · cases long
      · exact ⟨status, isText, long, notLost⟩
    · rintro ⟨status, isText, long, notLost⟩
      have isStatus := statusIn?_eq_some_iff.mpr (Or.inr isText)
      exact ⟨_, by rw [record, isStatus, Option.map_some], long, notLost⟩

/-- A heartbeat with an escaped key, a key repeated in the task state, and statuses elsewhere. -/
def escapedHeartbeat : String :=
  "\x7b\"taskstate\":\x7b\"b\":1,\"a\":2,\"b\":3\x7d,\"x\":[\x7b\"status\":\"lost\",\"status\":0\x7d]," ++
    "\"st\\u0061tus\" :\"up\"\x7d"

def escapedMembers : List (String × Json) :=
  [("taskstate", .object [("b", Json.ofInt 1), ("a", Json.ofInt 2), ("b", Json.ofInt 3)]),
    ("x", .array [.object [("status", .text "lost"), ("status", Json.ofInt 0)]]),
    ("status", .text "up")]

theorem readings_agree_on_escaped_key :
    Json.written escapedHeartbeat = .ok (.object escapedMembers) ∧
      JsonTree.IsUnrepeated "status" escapedMembers ∧
      JsonTree.IsUnrepeated "taskstate" escapedMembers ∧
      isAlive escapedHeartbeat = true ∧
      HeartbeatStatus.read? escapedHeartbeat =
        some ⟨"up", .object [("a", Json.ofInt 2), ("b", Json.ofInt 3)]⟩ := by
  have written : Json.written escapedHeartbeat = .ok (.object escapedMembers) :=
    eq_ok_of_toOption (by decide +kernel)
  have statusOnce : JsonTree.IsUnrepeated "status" escapedMembers := by
    unfold JsonTree.IsUnrepeated
    decide
  have taskStateOnce : JsonTree.IsUnrepeated "taskstate" escapedMembers := by
    unfold JsonTree.IsUnrepeated
    decide
  obtain ⟨tree, read, reads, holds, alive⟩ := readings_agree written statusOnce taskStateOnce
  rw [Json.read?_of_written written, Option.some.injEq] at read
  have status : tree.member? "status" = some (.text "up") := by
    rw [← read]
    decide +kernel
  have taskState : tree.member? "taskstate" =
      some (.object [("a", Json.ofInt 2), ("b", Json.ofInt 3)]) := by
    rw [← read]
    decide +kernel
  obtain ⟨report, found⟩ := Option.isSome_iff_exists.mp (reads.mpr (Or.inr ⟨"up", status⟩))
  obtain ⟨holdsStatus, holdsTaskState⟩ := holds report found
  refine ⟨written, statusOnce, taskStateOnce,
    alive.mpr ⟨"up", status, by decide, by decide⟩, ?_⟩
  obtain ⟨text, tree⟩ := report
  simp_all

end Heartbeat

end TaskLink
