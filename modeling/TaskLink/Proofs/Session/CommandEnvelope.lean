import TaskLink.Proofs.Json.RoundTrip
import TaskLink.Proofs.Session.RequestedRebuilds

/-!
# Envelopes of commands

Whoever reads the message of a command finds the envelope that was meant: the
session's own names, whatever characters they have, and the parameters of the
command laid over the session's defaults.  Nothing but that message is sent.
-/

namespace TaskLink

/-! ## Parameters over defaults -/

namespace JsonTree

variable {defaults overrides : List (String × Json)} {key : String}

/-- Of merged members the later ones count, and the earlier ones where those have none. -/
theorem find?_mergeMembers (sorted : AreSorted overrides) (key : String)
    (defaults : List (String × Json)) :
    find? key (mergeMembers defaults overrides) =
      (find? key overrides).or (find? key defaults) := by
  induction overrides generalizing defaults with
  | nil => rfl
  | cons member rest ih =>
      obtain ⟨first, value⟩ := member
      obtain ⟨isFirst, sorted⟩ := List.pairwise_cons.mp sorted
      have later := ih sorted (insertMember first value defaults)
      rw [mergeMembers] at later ⊢
      rw [List.foldl_cons, later]
      by_cases same : first = key
      · subst same
        rw [find?_of_first isFirst, find?_insertMember_self]
        simp [find?]
      · rw [find?_insertMember_ne (Ne.symm same)]
        simp [find?, same]

theorem mergeMembers_sorted (sorted : AreSorted defaults) (overrides : List (String × Json)) :
    AreSorted (mergeMembers defaults overrides) := by
  induction overrides generalizing defaults with
  | nil => exact sorted
  | cons member rest ih => exact ih (sorted.insertMember member.1 member.2)

/-- Every merged member is one of those that were merged. -/
theorem mem_mergeMembers {member : String × Json}
    (isIn : member ∈ mergeMembers defaults overrides) : member ∈ overrides ∨ member ∈ defaults := by
  induction overrides generalizing defaults with
  | nil => exact Or.inr isIn
  | cons head rest ih =>
      have inserted : member ∈ mergeMembers (insertMember head.1 head.2 defaults) rest := isIn
      rcases ih inserted with isIn | isIn
      · exact Or.inl (List.mem_cons_of_mem _ isIn)
      · rcases mem_insertMember isIn with rfl | isIn
        · exact Or.inl List.mem_cons_self
        · exact Or.inr isIn

theorem membersDepth_mergeMembers_le {bound : Nat} (shallow : membersDepth defaults ≤ bound)
    (shallowOverrides : membersDepth overrides ≤ bound) :
    membersDepth (mergeMembers defaults overrides) ≤ bound := by
  rw [membersDepth_le_iff] at shallow shallowOverrides ⊢
  intro member isIn
  rcases mem_mergeMembers isIn with isIn | isIn
  · exact shallowOverrides member isIn
  · exact shallow member isIn

theorem depth_object_le_iff {members : List (String × Json)} {bound : Nat} :
    depth (.object members) ≤ bound + 1 ↔ ∀ member ∈ members, member.2.depth ≤ bound := by
  rw [depth, Nat.add_le_add_iff_right, membersDepth_le_iff]

end JsonTree

open JsonTree

/--
What becomes of the parameters of a command.  An object is laid over the
defaults: it has the keys of both, each once, and its own value under each key
that it has.  Anything else stays as it is.
-/
inductive Overlays (defaults : List (String × Json)) : Json → Json → Prop where
  | merged {overrides merged : List (String × Json)} (sorted : AreSorted merged)
      (finds : ∀ key, find? key merged = (find? key overrides).or (find? key defaults)) :
      Overlays defaults (.object overrides) (.object merged)
  | kept {parameters : Json} (notObject : parameters.isObject = false) :
      Overlays defaults parameters parameters

/-- Plain values with room for the two objects around them in an envelope. -/
structure IsCarried (value : Json) : Prop where
  plain : value.IsPlain
  shallow : value.depth + 2 ≤ jsonDepthLimit

section Merging

variable {defaults : List (String × Json)} {parameters : Json}

theorem overlays_mergeParameters (carried : IsCarried (.object defaults))
    (carriedParameters : IsCarried parameters) :
    Overlays defaults parameters (mergeParameters (.object defaults) parameters) := by
  obtain ⟨plain, -⟩ := carried
  obtain ⟨plainParameters, -⟩ := carriedParameters
  cases plainParameters with
  | object sortedOverrides _ =>
      cases plain with
      | object sorted _ =>
          exact .merged (mergeMembers_sorted sorted _) fun key =>
            find?_mergeMembers sortedOverrides key defaults
  | _ => exact .kept rfl

/-- Merging makes parameters no deeper than they and the defaults are. -/
theorem isCarried_mergeParameters (carried : IsCarried (.object defaults))
    (carriedParameters : IsCarried parameters) :
    IsCarried (mergeParameters (.object defaults) parameters) := by
  obtain ⟨plain, shallow⟩ := carried
  obtain ⟨plainParameters, shallowParameters⟩ := carriedParameters
  cases plainParameters with
  | @object overrides _ plainOverrides =>
      cases plain with
      | object sorted plainDefaults =>
          rw [depth] at shallow shallowParameters
          refine ⟨.object (mergeMembers_sorted sorted overrides) fun member isIn => ?_, ?_⟩
          · rcases mem_mergeMembers isIn with isIn | isIn
            · exact plainOverrides member isIn
            · exact plainDefaults member isIn
          · have bound : membersDepth (mergeMembers defaults overrides) ≤ jsonDepthLimit - 3 :=
              membersDepth_mergeMembers_le (by omega) (by omega)
            rw [mergeParameters, depth]
            omega
  | _ => exact ⟨by constructor <;> assumption, shallowParameters⟩

end Merging

/-! ## The envelope -/

namespace Envelope

variable (envelope : Envelope) (parameters : Json)

/-- The members of an envelope in the order in which they are written. -/
theorem toJson_eq :
    envelope.toJson parameters = .object [
      ("fnname", .text "RunCommand"),
      ("slaverequestid", .text envelope.identity.slaveRequestId),
      ("taskparams", .object [
        ("sceneparams", .object [("scenepk", .text envelope.identity.sceneKey)]),
        ("taskparameters", mergeParameters envelope.taskParameters parameters),
        ("tasktype", .text envelope.taskType)]),
      ("userinfo", envelope.userInfo)] := by
  rfl

/-- An envelope is as plain as what it carries, and not too deep to be read. -/
theorem toJson_isReadable {envelope : Envelope} {defaults : List (String × Json)}
    {parameters : Json} (isDefaults : envelope.taskParameters = .object defaults)
    (carried : IsCarried (.object defaults)) (carriedParameters : IsCarried parameters)
    (carriedInfo : IsCarried envelope.userInfo) :
    (envelope.toJson parameters).IsPlain ∧
      (envelope.toJson parameters).depth ≤ jsonDepthLimit := by
  obtain ⟨plainMerged, shallowMerged⟩ := isCarried_mergeParameters carried carriedParameters
  obtain ⟨plainInfo, shallowInfo⟩ := carriedInfo
  rw [toJson_eq, isDefaults]
  constructor
  · refine .object (areSorted_of_keys ["fnname", "slaverequestid", "taskparams", "userinfo"] rfl
      (by decide)) ?_
    simp only [List.forall_mem_cons]
    refine ⟨.text _, .text _, ?_, plainInfo, nofun⟩
    refine .object (areSorted_of_keys ["sceneparams", "taskparameters", "tasktype"] rfl
      (by decide)) ?_
    simp only [List.forall_mem_cons]
    refine ⟨?_, plainMerged, .text _, nofun⟩
    refine .object (areSorted_of_keys ["scenepk"] rfl (by decide)) ?_
    simp only [List.forall_mem_cons]
    exact ⟨.text _, nofun⟩
  · have limit : jsonDepthLimit = 124 + 3 := rfl
    rw [limit] at shallowMerged shallowInfo ⊢
    simp only [depth_object_le_iff, List.forall_mem_cons]
    simp [depth]
    omega

end Envelope

/-! ## What is sent -/

open Alarmed

variable {σ : Type} {base : Fabric σ}

/-- What was added to a history, with nothing sent but one message. -/
structure Adds (before : Alarmed σ) (message : ByteArray) (recent : List ChannelEvent)
    (after : Alarmed σ) : Prop where
  history : after.history = recent ++ before.history
  only : ∀ socket payload, .sent socket payload ∈ recent → payload = message

namespace Adds

variable {before middle after : Alarmed σ} {message : ByteArray}
  {earlier later deeds : List ChannelEvent} {held held' : Option SocketId}

theorem trans (one : Adds before message earlier middle) (two : Adds middle message later after) :
    Adds before message (later ++ earlier) after where
  history := by rw [two.history, one.history, List.append_assoc]
  only socket payload isIn := by
    rcases List.mem_append.mp isIn with isIn | isIn
    · exact two.only socket payload isIn
    · exact one.only socket payload isIn

theorem of_uses (uses : Uses before held message deeds held' after) :
    ∃ recent, Adds before message recent after ∧ ∀ event ∈ deeds, event ∈ recent := by
  obtain ⟨⟨recent, history, rfl, -⟩, isOver, -⟩ := uses
  refine ⟨recent, ⟨history, fun socket payload isIn => ?_⟩, fun event isIn => ?_⟩
  · have isDeed : .sent socket payload ∈ recent.filter ChannelEvent.isSessions :=
      List.mem_filter.mpr ⟨isIn, rfl⟩
    obtain ⟨later, earlier, split⟩ := List.append_of_mem isDeed
    rw [split] at isOver
    exact isOver.of_sent.2
  · exact (List.mem_filter.mp isIn).1

theorem takeRequest (base : Fabric σ) (alarmed : Alarmed σ) (message : ByteArray) :
    ∃ recent, Adds alarmed message recent (alarmed.takeRequest base).2 := by
  obtain ⟨waiting, history, undone, -⟩ := pass_grows base alarmed
  have isTold : (alarmed.takeRequest base).2.history =
      .taken (alarmed.takeRequest base).1 :: (alarmed.pass base).history := rfl
  refine ⟨_ :: waiting, isTold.trans (by rw [history, List.cons_append]), ?_⟩
  intro socket payload isIn
  rcases List.mem_cons.mp isIn with same | isIn
  · cases same
  · exact absurd rfl (List.filter_eq_nil_iff.mp undone _ isIn)

end Adds

namespace TaskSession

variable {session after : TaskSession (Alarmed σ)} {alarmed last : Alarmed σ}

/-- To replace the client on request no message is sent. -/
theorem renewIfRequested_adds (base : Fabric σ) (session : TaskSession (Alarmed σ))
    (alarmed : Alarmed σ) (message : ByteArray) :
    ∃ recent, Adds alarmed message recent
      (session.renewIfRequested (fabric base) (watchers base) alarmed).2.2 := by
  unfold renewIfRequested
  cases session.watcher with
  | none => exact ⟨[], rfl, nofun⟩
  | some watcher =>
      obtain ⟨taken, asked⟩ := Adds.takeRequest base alarmed message
      dsimp only [watchers]
      generalize alarmed.takeRequest base = check at asked ⊢
      obtain ⟨requested, middle⟩ := check
      cases requested with
      | false => exact ⟨taken, asked⟩
      | true =>
          obtain ⟨result, opened, reopens, -, -⟩ := renew_reopens base session middle
          obtain ⟨event, -, uses⟩ := reopens.uses session.client.lifecycle.socket message
          obtain ⟨recent, adds, -⟩ := Adds.of_uses uses
          exact ⟨recent ++ taken, asked.trans adds⟩

/-- A command that watches no bits sends its own text only, and that before it has a reply. -/
theorem executeRaw_adds {fuel : Nat} {command : String} {timeout : Option Duration}
    {outcome : Except SessionError String}
    (returned : session.executeRaw (fabric base) (watchers base) fuel command timeout 0 alarmed =
      some (outcome, after, last)) :
    ∃ recent, Adds alarmed command.toUTF8 recent last ∧
      ∀ reply, outcome = .ok reply → ∃ socket, .sent socket command.toUTF8 ∈ recent := by
  obtain ⟨checked, checks⟩ := renewIfRequested_adds base session alarmed command.toUTF8
  unfold executeRaw at returned
  generalize session.renewIfRequested (fabric base) (watchers base) alarmed = renewed at *
  obtain ⟨result, ready, middle⟩ := renewed
  cases result with
  | error error =>
      cases returned
      exact ⟨checked, checks, nofun⟩
  | ok _ =>
      obtain ⟨deeds, uses, -, -, -, isSent⟩ :=
        transmit_uses ready (Requester.isApart_unwatched base _) returned
      obtain ⟨recent, adds, isTold⟩ := Adds.of_uses uses
      refine ⟨recent ++ checked, checks.trans adds, fun reply isReply => ?_⟩
      obtain ⟨socket, isIn⟩ := isSent reply isReply
      exact ⟨socket, List.mem_append_left _ (isTold _ isIn)⟩

/-! ## Commands as they are read -/

/--
Whatever characters a session's names have, and whatever parameters a command
is given: all that is sent for it is one message, and whoever reads that finds
the session's own names and user, and the parameters laid over its defaults.
-/
theorem commands_are_read_as_meant (session : TaskSession (Alarmed σ))
    {defaults : List (String × Json)} {parameters : Json}
    (isDefaults : session.options.taskParameters = .object defaults)
    (carried : IsCarried (.object defaults)) (carriedParameters : IsCarried parameters)
    (carriedInfo : IsCarried session.options.userInfo) :
    let message := (session.commandEnvelope parameters).compact
    ∃ merged, Overlays defaults parameters merged ∧
      Json.read? message = some (.object [
        ("fnname", .text "RunCommand"),
        ("slaverequestid", .text session.identity.slaveRequestId),
        ("taskparams", .object [
          ("sceneparams", .object [("scenepk", .text session.identity.sceneKey)]),
          ("taskparameters", merged),
          ("tasktype", .text session.options.taskType)]),
        ("userinfo", session.options.userInfo)]) ∧
      ∀ fuel timeout alarmed outcome after last,
        session.execute (fabric base) (watchers base) fuel parameters timeout alarmed =
            some (outcome, after, last) →
          ∃ recent, Adds alarmed message.toUTF8 recent last ∧
            ∀ value, outcome = .ok value → ∃ socket, .sent socket message.toUTF8 ∈ recent := by
  intro message
  refine ⟨mergeParameters (.object defaults) parameters,
    overlays_mergeParameters carried carriedParameters, ?_, ?_⟩
  · have readable := session.envelope.toJson_isReadable isDefaults carried carriedParameters
      carriedInfo
    refine (Json.read?_compact readable.1 readable.2).trans ?_
    rw [Envelope.toJson_eq, ← isDefaults]
    rfl
  · intro fuel timeout alarmed outcome after last executed
    obtain ⟨⟨result, session', s⟩, returned, same⟩ := Option.map_eq_some_iff.mp executed
    cases same
    obtain ⟨recent, adds, isSent⟩ := executeRaw_adds returned
    refine ⟨recent, adds, fun value isValue => ?_⟩
    cases result with
    | error error => cases isValue
    | ok reply => exact isSent reply rfl

end TaskSession

namespace QuotedNames

/-- Names with quotes, backslashes and control characters. -/
def identity : SessionIdentity :=
  ⟨"cell \"7\"\n", "worker\\\x01"⟩

def defaults : List (String × Json) :=
  [("robot", .text "arm"), ("speed", .number (.whole 1))]

def parameters : Json :=
  .object [("scenepk", .text "other"), ("speed", .array [.number (.whole 18446744073709551615), .null])]

def userInfo : Json :=
  .object [("name", .text "\"é\"")]

def options : SessionOptions :=
  { host := "localhost", taskType := "a\\b", taskParameters := .object defaults,
    userInfo := userInfo }

def bound : Except SessionError (TaskSession (Alarmed Network)) × Alarmed Network :=
  TaskSession.bind (fabric Network.fabric) options identity ⟨0⟩
    { surroundings := {}, vigil := { lastAlive := 0 } }

def commanded (session : TaskSession (Alarmed Network)) (alarmed : Alarmed Network) :
    Option (Except SessionError Json × TaskSession (Alarmed Network) × Alarmed Network) :=
  session.execute (fabric Network.fabric) (watchers Network.fabric) 3 parameters
    (some (.ofMillis 100)) alarmed

def sends : Except SessionError (TaskSession (Alarmed Network)) × Alarmed Network → Bool
  | (.ok session, alarmed) =>
      decide (session.identity = identity ∧ session.options.taskType = options.taskType ∧
        session.options.taskParameters = .object defaults ∧
        session.options.userInfo = userInfo) &&
      !alarmed.history.any ChannelEvent.isAttempt &&
      (commanded session alarmed).any fun (_, _, last) =>
        last.history.any fun event => match event with
          | .sent _ _ => true
          | _ => false
  | (.error _, _) => false

theorem isCarried_defaults : IsCarried (.object defaults) where
  plain := by
    refine .object (areSorted_of_keys ["robot", "speed"] rfl (by decide)) ?_
    simp only [defaults, List.forall_mem_cons]
    exact ⟨.text _, .number (by decide), nofun⟩
  shallow := by decide

theorem isCarried_parameters : IsCarried parameters where
  plain := by
    refine .object (areSorted_of_keys ["scenepk", "speed"] rfl (by decide)) ?_
    simp only [List.forall_mem_cons]
    refine ⟨.text _, .array ?_, nofun⟩
    simp only [List.forall_mem_cons]
    exact ⟨.number (by decide), .null, nofun⟩
  shallow := by decide

theorem isCarried_userInfo : IsCarried userInfo where
  plain := by
    refine .object (areSorted_of_keys ["name"] rfl (by decide)) ?_
    simp only [List.forall_mem_cons]
    exact ⟨.text _, nofun⟩
  shallow := by decide

end QuotedNames

open QuotedNames in
/-- A session's names are read as they are, though its parameters name another scene. -/
theorem TaskSession.commands_are_read_as_meant_with_quoted_names :
    ∃ session alarmed merged outcome after last socket,
      bound = (.ok session, alarmed) ∧
        commanded session alarmed = some (outcome, after, last) ∧
        .sent socket (session.commandEnvelope parameters).compact.toUTF8 ∈ last.history ∧
        Overlays defaults parameters merged ∧
        Json.read? (session.commandEnvelope parameters).compact = some (.object [
          ("fnname", .text "RunCommand"),
          ("slaverequestid", .text "worker\\\x01"),
          ("taskparams", .object [
            ("sceneparams", .object [("scenepk", .text "cell \"7\"\n")]),
            ("taskparameters", merged),
            ("tasktype", .text "a\\b")]),
          ("userinfo", userInfo)]) := by
  have once : sends bound = true := by decide +kernel
  cases isBound : bound with
  | mk result alarmed =>
      rw [isBound] at once
      cases result with
      | error error => cases once
      | ok session =>
          simp only [sends, Bool.and_eq_true, Bool.not_eq_true', decide_eq_true_eq] at once
          obtain ⟨⟨⟨isIdentity, isType, isDefaults, isInfo⟩, unsent⟩, sent⟩ := once
          obtain ⟨⟨outcome, after, last⟩, executed, sent⟩ := (Option.any_eq_true _ _).mp sent
          have carriedInfo : IsCarried session.options.userInfo := isInfo ▸ isCarried_userInfo
          obtain ⟨merged, overlays, isRead, runs⟩ :=
            session.commands_are_read_as_meant isDefaults isCarried_defaults isCarried_parameters
              carriedInfo
          rw [isIdentity, isType, isInfo] at isRead
          obtain ⟨recent, adds, -⟩ := runs _ _ _ _ _ _ executed
          obtain ⟨event, isIn, isSent⟩ := List.any_eq_true.mp sent
          cases event with
          | sent socket payload =>
              have isRecent : .sent socket payload ∈ recent := by
                rw [adds.history] at isIn
                rcases List.mem_append.mp isIn with isIn | isIn
                · exact isIn
                · exact absurd rfl (List.any_eq_false.mp unsent _ isIn)
              rw [adds.only socket payload isRecent] at isIn
              exact ⟨session, alarmed, merged, outcome, after, last, socket, rfl,
                executed, isIn, overlays, isRead⟩
          | _ => cases isSent

end TaskLink
