import Mathlib.Data.List.Basic
import TaskLink.Proofs.Json.Drafts
import TaskLink.Proofs.Json.Members
import TaskLink.Proofs.Session.IdentityResolution

/-!
# Whose scene an identity names

A heartbeat may announce several slaves, and a missing part of an identity is
always taken from the one with the smallest key.  Scene and request id belong
together if both were left out, or if the supplied request id is that of the
smallest key; otherwise the scene is of another slave.
-/

namespace TaskLink

namespace Heartbeat

/-! ## The first slave -/

/-- A key that has a request id is the request id after the prefix. -/
theorem key_of_requestIdOfKey {key : String} (named : requestIdOfKey key ≠ "") :
    key = slavePrefix ++ requestIdOfKey key := by
  unfold requestIdOfKey at named ⊢
  cases started : afterStart? slavePrefix key with
  | none =>
      rw [started] at named
      exact absurd rfl named
  | some rest =>
      obtain ⟨characters, isRest, rfl⟩ := Option.map_eq_some_iff.mp started
      rw [Option.getD_some, ← String.toList_inj, String.toList_append, String.toList_ofList]
      exact (List.append_eq_of_isPrefixOf?_eq_some isRest).symm

theorem slaves?_areSorted {heartbeat : String} {slaves : List (String × Json)}
    (found : slaves? heartbeat = some slaves) : JsonTree.AreSorted slaves := by
  unfold slaves? at found
  split at found
  · next tree isRead =>
      obtain ⟨raw, -, rfl⟩ := Json.exists_written_of_read? isRead
      split at found
      · next standing isMember =>
          cases found
          obtain ⟨inner, isCanonical⟩ := JsonTree.exists_canonical_of_member? isMember
          exact JsonTree.areSorted_of_canonical isCanonical.symm
      · cases found
  · cases found

theorem firstSlave?_cases {heartbeat key : String} {state : Json}
    (first : firstSlave? heartbeat = some (key, state)) :
    ∃ slaves, slaves? heartbeat = some slaves ∧ JsonTree.find? key slaves = some state ∧
      ∀ slave ∈ slaves, slave.1 = key ∨ key < slave.1 := by
  obtain ⟨slaves, found, isHead⟩ := Option.bind_eq_some_iff.mp first
  obtain ⟨rest, rfl⟩ := List.head?_eq_some_iff.mp isHead
  have before := (List.pairwise_cons.mp (slaves?_areSorted found)).1
  refine ⟨_, found, by simp [JsonTree.find?], fun slave isIn => ?_⟩
  rcases List.mem_cons.mp isIn with rfl | isIn
  · exact Or.inl rfl
  · exact Or.inr (before slave isIn)

def sceneOfSlave? (requestId heartbeat : String) : Option String :=
  (slaves? heartbeat).bind fun slaves =>
    (JsonTree.find? (slavePrefix ++ requestId) slaves).map sceneOfState

/-- No slave of a heartbeat has a smaller key than the one with a request id. -/
def IsSmallestSlave (requestId heartbeat : String) : Prop :=
  ∀ slaves, slaves? heartbeat = some slaves → ∀ slave ∈ slaves, ¬slave.1 < slavePrefix ++ requestId

end Heartbeat

namespace SessionIdentity

/-! ## Coherence -/

/-- If the heartbeat announces the slave of an identity, the scene is that slave's. -/
def IsCoherentWith (identity : SessionIdentity) (heartbeat : String) : Prop :=
  ∀ scene, Heartbeat.sceneOfSlave? identity.slaveRequestId heartbeat = some scene →
    identity.sceneKey = scene

variable {σ τ : Type}

/--
A scene that was left out is the one of the slave with the smallest key in the
first heartbeat.  It belongs to the slave that the identity names if the
request id was left out too, or if that slave has the smallest key.
-/
theorem scene_is_of_smallest_slave {supplied identity : SessionIdentity}
    {policy : DiscoveryPolicy} {source : HeartbeatSource σ τ} {s : σ}
    (noScene : supplied.sceneKey = "")
    (resolved : (supplied.resolve policy source s).1 = .ok identity) :
    ∃ answers heartbeat slaves key state,
      (supplied.resolve policy source.noting ⟨s, []⟩).2.events = consultation policy answers ∧
        HeartbeatSource.Discovers source.endpoint policy.attempts answers (.ok heartbeat) ∧
        Heartbeat.slaves? heartbeat = some slaves ∧ JsonTree.find? key slaves = some state ∧
        (∀ slave ∈ slaves, slave.1 = key ∨ key < slave.1) ∧
        identity.sceneKey = Heartbeat.sceneOfState state ∧
        (supplied.slaveRequestId = "" ∨
            Heartbeat.IsSmallestSlave identity.slaveRequestId heartbeat →
          identity.IsCoherentWith heartbeat) := by
  obtain ⟨events, same, resolves⟩ := supplied.resolve_noting policy source s
  rw [resolved] at resolves
  cases resolves with
  | known isKnown => exact absurd noScene isKnown.1
  | @completed answers heartbeat _ unknown discovers completes =>
      have isScene := completes.sceneKey_found noScene
      cases first : Heartbeat.firstSlave? heartbeat with
      | none =>
          rw [Heartbeat.sceneKey, first] at isScene
          exact absurd isScene completes.isKnown.1
      | some slave =>
          obtain ⟨key, state⟩ := slave
          rw [Heartbeat.sceneKey, first] at isScene
          obtain ⟨slaves, isSlaves, found, smallest⟩ := Heartbeat.firstSlave?_cases first
          refine ⟨answers, heartbeat, slaves, key, state, by rw [same], discovers, isSlaves, found,
            smallest, isScene, fun isFirst scene named => ?_⟩
          rw [Heartbeat.sceneOfSlave?, isSlaves, Option.bind_some] at named
          obtain ⟨other, isOther, rfl⟩ := Option.map_eq_some_iff.mp named
          have isKey : Heartbeat.slavePrefix ++ identity.slaveRequestId = key := by
            rcases isFirst with noRequestId | isSmallest
            · have isRequestId := completes.slaveRequestId_found noRequestId
              rw [Heartbeat.slaveRequestId, first] at isRequestId
              have isNamed := completes.isKnown.2
              rw [isRequestId] at isNamed ⊢
              exact (Heartbeat.key_of_requestIdOfKey isNamed).symm
            · exact (smallest _ (JsonTree.mem_of_find? isOther)).resolve_right
                (isSmallest slaves isSlaves _ (JsonTree.mem_of_find? found))
          rw [isKey, found] at isOther
          cases isOther
          exact isScene

/-! ## Two slaves -/

def twoSlaves : String :=
  "\x7b\"slavestates\":\x7b" ++
    "\"slaverequestid-worker-1\":\x7b\"currentsceneuri\":\"mujin:/one.mujin.dae\"\x7d," ++
    "\"slaverequestid-worker-2\":\x7b\"currentsceneuri\":\"mujin:/two.mujin.dae\"\x7d\x7d\x7d"

/-- A source that answers nothing at first, then with an empty heartbeat, then with two slaves. -/
def twoSlavesAtLast : HeartbeatScript :=
  { answers := [.ok none, .ok (some ""), .ok (some twoSlaves)] }

def scripted : HeartbeatSource HeartbeatScript HeartbeatScript :=
  HeartbeatScript.source "tcp://scripted:1" none

theorem slaves?_twoSlaves :
    Heartbeat.slaves? twoSlaves =
      some [("slaverequestid-worker-1",
          .object [("currentsceneuri", .text "mujin:/one.mujin.dae")]),
        ("slaverequestid-worker-2",
          .object [("currentsceneuri", .text "mujin:/two.mujin.dae")])] := by
  decide +kernel

theorem slaveRequestId_twoSlaves : Heartbeat.slaveRequestId twoSlaves = "worker-1" := by
  rw [Heartbeat.slaveRequestId, Heartbeat.firstSlave?, slaves?_twoSlaves]
  decide +kernel

theorem sceneKey_twoSlaves : Heartbeat.sceneKey twoSlaves = "one.mujin.dae" := by
  rw [Heartbeat.sceneKey, Heartbeat.firstSlave?, slaves?_twoSlaves]
  decide +kernel

/-- The third answer is the first that is a heartbeat. -/
theorem resolve_twoSlavesAtLast {supplied : SessionIdentity}
    (incomplete : supplied.isComplete = false) :
    (supplied.resolve {} scripted twoSlavesAtLast).1 =
      supplied.completeFrom scripted.endpoint twoSlaves := by
  let opened : HeartbeatScript := { twoSlavesAtLast with opened := true }
  have opening : scripted.openSource twoSlavesAtLast = .ok opened := rfl
  have discovered : (scripted.discover {} opened).1 = .ok twoSlaves :=
    eq_ok_of_toOption (by decide +kernel)
  rw [resolve, incomplete, opening]
  dsimp only
  generalize scripted.discover {} opened = found at discovered
  obtain ⟨result, closing⟩ := found
  cases discovered
  rfl

/-- An identity with nothing supplied is the first slave's in both parts. -/
theorem scene_is_of_smallest_slave_of_two :
    ((⟨"", ""⟩ : SessionIdentity).resolve {} scripted twoSlavesAtLast).1 =
        .ok ⟨"one.mujin.dae", "worker-1"⟩ ∧
      ∃ answers heartbeat,
        HeartbeatSource.Discovers "tcp://scripted:1" 10 answers (.ok heartbeat) ∧
          (⟨"one.mujin.dae", "worker-1"⟩ : SessionIdentity).IsCoherentWith heartbeat := by
  have resolved :
      ((⟨"", ""⟩ : SessionIdentity).resolve {} scripted twoSlavesAtLast).1 =
        .ok ⟨"one.mujin.dae", "worker-1"⟩ := by
    rw [resolve_twoSlavesAtLast (by decide), completeFrom, fill, sceneKey_twoSlaves,
      slaveRequestId_twoSlaves]
    rfl
  obtain ⟨answers, heartbeat, slaves, key, state, -, discovers, -, -, -, -, coherent⟩ :=
    scene_is_of_smallest_slave rfl resolved
  exact ⟨resolved, answers, heartbeat, discovers, coherent (Or.inl rfl)⟩

/-- A supplied request id is paired with the scene of another slave. -/
theorem supplied_request_id_of_another_slave :
    ((⟨"", "worker-2"⟩ : SessionIdentity).resolve {} scripted twoSlavesAtLast).1 =
        .ok ⟨"one.mujin.dae", "worker-2"⟩ ∧
      Heartbeat.sceneOfSlave? "worker-2" twoSlaves = some "two.mujin.dae" ∧
      ¬(⟨"one.mujin.dae", "worker-2"⟩ : SessionIdentity).IsCoherentWith twoSlaves := by
  have another : Heartbeat.sceneOfSlave? "worker-2" twoSlaves = some "two.mujin.dae" := by
    rw [Heartbeat.sceneOfSlave?, slaves?_twoSlaves]
    decide +kernel
  refine ⟨?_, another, fun coherent => ?_⟩
  · rw [resolve_twoSlavesAtLast (by decide), completeFrom, fill, sceneKey_twoSlaves]
    rfl
  · exact absurd (coherent _ another) (by decide)

end SessionIdentity

end TaskLink
