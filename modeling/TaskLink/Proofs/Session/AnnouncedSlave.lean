import TaskLink.Proofs.Json.Reordering
import TaskLink.Proofs.Session.IdentityCoherence
import TaskLink.Proofs.Text.ByteOrder

/-!
# The slave that a heartbeat announces

Request id and scene of a heartbeat are read from one entry, the one whose key
has the smallest bytes.  Which entry that is, and what it says, does not depend
on the order in which members are written.
-/

namespace TaskLink

namespace Heartbeat

/-! ## The announced slave -/

/--
A heartbeat announces a slave under a key: its last member for the slaves is an
object, no key in it has smaller bytes, and this is what stands there last.
-/
inductive Announces (heartbeat key : String) (state : Json) : Prop where
  | intro {members slaves : List (String × Json)}
      (written : Json.written heartbeat = .ok (.object members))
      (standing : JsonTree.lastUnder? "slavestates" members = some (.object slaves))
      (found : JsonTree.lastUnder? key slaves = some state)
      (smallest : ∀ slave ∈ slaves, ¬encodedBytes slave.1 < encodedBytes key)

variable {heartbeat key : String}

/-- The slaves of a heartbeat are those written last, each as it is written last. -/
theorem slaves?_eq_some_iff {found : List (String × Json)} :
    slaves? heartbeat = some found ↔
      ∃ members slaves, Json.written heartbeat = .ok (.object members) ∧
        JsonTree.lastUnder? "slavestates" members = some (.object slaves) ∧
        found = JsonTree.canonicalMembers slaves [] := by
  constructor
  · intro isFound
    unfold slaves? at isFound
    split at isFound
    · next tree isRead =>
        obtain ⟨raw, written, rfl⟩ := Json.exists_written_of_read? isRead
        split at isFound
        · next standing isMember =>
            cases isFound
            cases raw with
            | object members =>
                rw [JsonTree.member?_canonical_object] at isMember
                obtain ⟨last, isLast, isCanonical⟩ := Option.map_eq_some_iff.mp isMember
                cases last with
                | object slaves =>
                    rw [JsonTree.canonical, JsonTree.object.injEq] at isCanonical
                    exact ⟨members, slaves, written, isLast, isCanonical.symm⟩
                | _ =>
                    rw [JsonTree.canonical] at isCanonical
                    cases isCanonical
            | _ =>
                rw [JsonTree.canonical] at isMember
                cases isMember
        · cases isFound
    · cases isFound
  · rintro ⟨members, slaves, written, standing, rfl⟩
    rw [slaves?, Json.read?_of_written written]
    dsimp only
    rw [JsonTree.member?_canonical_object, standing, Option.map_some, JsonTree.canonical]

/-- The first slave of a heartbeat is the one that it announces. -/
theorem firstSlave?_eq_some_iff {value : Json} :
    firstSlave? heartbeat = some (key, value) ↔
      ∃ state, Announces heartbeat key state ∧ value = state.canonical := by
  constructor
  · intro first
    obtain ⟨found, isFound, isUnder, smallest⟩ := firstSlave?_cases first
    obtain ⟨members, slaves, written, standing, rfl⟩ := slaves?_eq_some_iff.mp isFound
    rw [JsonTree.find?_canonicalMembers_nil] at isUnder
    obtain ⟨state, isLast, rfl⟩ := Option.map_eq_some_iff.mp isUnder
    refine ⟨state, .intro written standing isLast fun slave isIn less => ?_, rfl⟩
    rw [encodedBytes_lt_iff] at less
    obtain ⟨other, isOther⟩ := JsonTree.exists_lastUnder?_of_mem isIn
    have isMember := JsonTree.find?_canonicalMembers_nil slave.1 slaves
    rw [isOther, Option.map_some] at isMember
    rcases smallest _ (JsonTree.mem_of_find? isMember) with same | more
    · exact String.lt_irrefl key (same ▸ less)
    · exact String.lt_irrefl key (String.lt_trans more less)
  · rintro ⟨state, ⟨written, standing, found, smallest⟩, rfl⟩
    rename_i members slaves
    have isFound := slaves?_eq_some_iff.mpr ⟨members, slaves, written, standing, rfl⟩
    have isUnder := JsonTree.find?_canonicalMembers_nil key slaves
    rw [found, Option.map_some] at isUnder
    rw [firstSlave?, isFound, Option.bind_some]
    apply (JsonTree.canonicalMembers_nil_sorted slaves).head?_eq (JsonTree.mem_of_find? isUnder)
    intro member isIn
    rw [← encodedBytes_lt_iff]
    rcases JsonTree.mem_canonicalMembers isIn with ⟨value, isSlave⟩ | impossible
    · exact smallest (member.1, value) isSlave
    · cases impossible

theorem Announces.unique {otherKey : String} {state otherState : Json}
    (announces : Announces heartbeat key state)
    (announcesOther : Announces heartbeat otherKey otherState) :
    key = otherKey ∧ state = otherState := by
  have first := firstSlave?_eq_some_iff.mpr ⟨state, announces, rfl⟩
  have otherFirst := firstSlave?_eq_some_iff.mpr ⟨otherState, announcesOther, rfl⟩
  rw [first] at otherFirst
  obtain ⟨rfl, -⟩ := Prod.mk.inj (Option.some.inj otherFirst)
  obtain ⟨written, standing, found, -⟩ := announces
  obtain ⟨otherWritten, otherStanding, otherFound, -⟩ := announcesOther
  rw [written] at otherWritten
  cases otherWritten
  rw [standing] at otherStanding
  cases otherStanding
  exact ⟨rfl, Option.some.inj (found.symm.trans otherFound)⟩

/-! ## Identity -/

theorem identity_of_announces {state : Json} (announces : Announces heartbeat key state) :
    slaveRequestId heartbeat = requestIdOfKey key ∧
      sceneKey heartbeat = sceneOfState state.canonical := by
  have first := firstSlave?_eq_some_iff.mpr ⟨state, announces, rfl⟩
  rw [slaveRequestId, sceneKey, first]
  exact ⟨rfl, rfl⟩

/-- A heartbeat that announces no slave gives neither a request id nor a scene. -/
theorem identity_of_no_slave (none : ¬∃ key state, Announces heartbeat key state) :
    slaveRequestId heartbeat = "" ∧ sceneKey heartbeat = "" := by
  have empty : firstSlave? heartbeat = Option.none := by
    cases first : firstSlave? heartbeat with
    | none => rfl
    | some slave =>
        obtain ⟨state, announces, -⟩ := firstSlave?_eq_some_iff.mp first
        exact absurd ⟨slave.1, state, announces⟩ none
  rw [slaveRequestId, sceneKey, empty]
  exact ⟨rfl, rfl⟩

theorem requestIdOfKey_append (requestId : String) :
    requestIdOfKey (slavePrefix ++ requestId) = requestId := by
  have started : afterStart? slavePrefix (slavePrefix ++ requestId) = some requestId := by
    rw [afterStart?, String.toList_append, List.isPrefixOf?_eq_some_iff_append_eq.mpr rfl,
      Option.map_some, String.ofList_toList]
  rw [requestIdOfKey, started, Option.getD_some]

theorem firstSlave?_of_reordered {other : String} {tree otherTree : Json}
    (written : Json.written heartbeat = .ok tree) (otherWritten : Json.written other = .ok otherTree)
    (reordered : tree.Reordered otherTree) : firstSlave? heartbeat = firstSlave? other := by
  unfold firstSlave? slaves?
  rw [Json.read?_of_written written, Json.read?_of_written otherWritten, reordered.canonical_eq]

/--
Every heartbeat gives a request id and a scene: both of the one slave that it
announces, or both empty if it announces none.  A heartbeat whose value differs
only in the order of members gives the same.  A request id that is not empty is
what follows the prefix in the key of the slave.
-/
theorem identity_ignores_order (heartbeat : String) :
    (∀ key state, Announces heartbeat key state →
      (slaveRequestId heartbeat = requestIdOfKey key ∧
        sceneKey heartbeat = sceneOfState state.canonical) ∧
      (∀ otherKey otherState, Announces heartbeat otherKey otherState →
        key = otherKey ∧ state = otherState) ∧
      (∀ requestId, key = "slaverequestid-" ++ requestId → slaveRequestId heartbeat = requestId) ∧
      (slaveRequestId heartbeat ≠ "" → "slaverequestid-" ++ slaveRequestId heartbeat = key)) ∧
    ((¬∃ key state, Announces heartbeat key state) →
      slaveRequestId heartbeat = "" ∧ sceneKey heartbeat = "") ∧
    (∀ other tree otherTree, Json.written heartbeat = .ok tree → Json.written other = .ok otherTree →
      tree.Reordered otherTree →
        slaveRequestId heartbeat = slaveRequestId other ∧ sceneKey heartbeat = sceneKey other) := by
  refine ⟨fun key state announces => ?_, identity_of_no_slave,
    fun other tree otherTree written otherWritten reordered => ?_⟩
  · have identity := identity_of_announces announces
    refine ⟨identity, fun otherKey otherState => announces.unique, ?_, ?_⟩
    · rintro requestId rfl
      exact identity.1.trans (requestIdOfKey_append requestId)
    · intro named
      rw [identity.1] at named ⊢
      exact (key_of_requestIdOfKey named).symm
  · have same := firstSlave?_of_reordered written otherWritten reordered
    unfold slaveRequestId sceneKey
    rw [same]
    exact ⟨rfl, rfl⟩

/-! ## Two orders -/

/-- A heartbeat with an escaped key first, and a key that is written twice. -/
def escapedFirst : String :=
  "\x7b\"slavestates\":\x7b\"slaverequestid-\\u00e9\":\x7b\x7d," ++
    "\"slaverequestid-a\":\x7b\"x\":0,\"currentsceneuri\":\"old\"," ++
    "\"currentsceneuri\":\"mujin:/one.mujin.dae\"\x7d\x7d\x7d"

/-- The same heartbeat with its slaves, and the members of one of them, in another order. -/
def escapedLast : String :=
  "\x7b\"slavestates\":\x7b\"slaverequestid-a\":\x7b\"currentsceneuri\":\"old\",\"x\":0," ++
    "\"currentsceneuri\":\"mujin:/one.mujin.dae\"\x7d,\"slaverequestid-é\":\x7b\x7d\x7d\x7d"

def firstState : Json :=
  .object [("x", Json.ofInt 0), ("currentsceneuri", .text "old"),
    ("currentsceneuri", .text "mujin:/one.mujin.dae")]

def otherState : Json :=
  .object [("currentsceneuri", .text "old"), ("x", Json.ofInt 0),
    ("currentsceneuri", .text "mujin:/one.mujin.dae")]

theorem written_escapedFirst :
    Json.written escapedFirst = .ok (.object [("slavestates",
      .object [("slaverequestid-é", .object []), ("slaverequestid-a", firstState)])]) :=
  eq_ok_of_toOption (by decide +kernel)

theorem written_escapedLast :
    Json.written escapedLast = .ok (.object [("slavestates",
      .object [("slaverequestid-a", otherState), ("slaverequestid-é", .object [])])]) :=
  eq_ok_of_toOption (by decide +kernel)

theorem announces_escapedFirst : Announces escapedFirst "slaverequestid-a" firstState := by
  refine .intro written_escapedFirst rfl rfl fun slave isIn => ?_
  rw [encodedBytes_lt_iff]
  obtain rfl | rfl : slave = ("slaverequestid-é", .object []) ∨
      slave = ("slaverequestid-a", firstState) := by simpa using isIn
  · decide
  · decide

theorem reordered_escaped :
    JsonTree.Reordered
      (.object [("slavestates",
        .object [("slaverequestid-é", .object []), ("slaverequestid-a", firstState)])])
      (.object [("slavestates",
        .object [("slaverequestid-a", otherState), ("slaverequestid-é", .object [])])] : Json) := by
  have states : firstState.Reordered otherState :=
    @JsonTree.Reordered.swapped _ [] _ _ _ (by decide)
  have inner := @JsonTree.Reordered.inMember _ [("slaverequestid-é", .object [])] []
    "slaverequestid-a" _ _ states
  have slaves := inner.trans (@JsonTree.Reordered.swapped _ [] [] _ _ (by decide))
  exact @JsonTree.Reordered.inMember _ [] [] "slavestates" _ _ slaves

theorem identity_ignores_order_of_two_slaves :
    (slaveRequestId escapedFirst = "a" ∧ sceneKey escapedFirst = "one.mujin.dae") ∧
      slaveRequestId escapedFirst = slaveRequestId escapedLast ∧
      sceneKey escapedFirst = sceneKey escapedLast := by
  obtain ⟨announced, -, same⟩ := identity_ignores_order escapedFirst
  obtain ⟨⟨-, scene⟩, -, requestId, -⟩ := announced _ _ announces_escapedFirst
  have isScene : sceneOfState firstState.canonical = "one.mujin.dae" := by decide +kernel
  exact ⟨⟨requestId "a" rfl, scene.trans isScene⟩,
    same _ _ _ written_escapedFirst written_escapedLast reordered_escaped⟩

end Heartbeat

end TaskLink
