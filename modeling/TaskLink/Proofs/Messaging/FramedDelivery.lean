import Mathlib.Data.List.Forall2
import TaskLink.Proofs.Messaging.FramedRounds
import TaskLink.Proofs.Messaging.FreshReply

/-!
# Frames are delivered exactly

What the peer reads frame by frame is a request as it was sent, and what an
exchange returns is decided by the frames of the peer's reply alone.  None of
its results costs the client its socket, so one exchange follows another.
-/

namespace TaskLink

/-! ## What a reply says -/

/-- Which replies come to which results: a payload, the peer's own reason, or neither. -/
structure IsToldBy (result : Except LinkError (List ByteArray)) (reply : List ByteArray) :
    Prop where
  done : ∀ payload, result = .ok payload ↔ reply = statusDone :: payload
  failed : ∀ text, result = .error (.peerError text) ↔
    ∃ reason, reply = [statusFailed, reason] ∧ text = decodeLenient reason
  malformed : (∃ detail, result = .error (.invalidState detail)) ↔
    (∀ payload, reply ≠ statusDone :: payload) ∧ ∀ reason, reply ≠ [statusFailed, reason]

theorem splitStatus_done (payload : List ByteArray) :
    splitStatus (statusDone :: payload) = .ok payload := by
  unfold splitStatus
  dsimp only
  rw [if_pos (beq_self_eq_true _)]

theorem statusFailed_ne_statusDone : statusFailed ≠ statusDone := by
  intro same
  have data := congrArg ByteArray.data same
  revert data
  decide

theorem splitStatus_failed (reason : ByteArray) :
    splitStatus [statusFailed, reason] = .error (.peerError (decodeLenient reason)) := by
  have unlike : ¬(statusFailed.data == statusDone.data) = true := fun same =>
    statusFailed_ne_statusDone (ByteArray.ext (eq_of_beq same))
  rw [splitStatus, if_neg unlike, if_pos (beq_self_eq_true _)]

theorem exists_splitStatus_malformed {reply : List ByteArray}
    (notDone : ∀ payload, reply ≠ statusDone :: payload)
    (notFailed : ∀ reason, reply ≠ [statusFailed, reason]) :
    ∃ detail, splitStatus reply = .error (.invalidState detail) := by
  unfold splitStatus
  split
  · exact ⟨_, rfl⟩
  · next status payload =>
      split
      · next same =>
          have isDone : status = statusDone := ByteArray.ext (eq_of_beq same)
          exact absurd (by rw [isDone]) (notDone payload)
      · split
        · next same =>
            have isFailed : status = statusFailed := ByteArray.ext (eq_of_beq same)
            split
            · next reason => exact absurd (by rw [isFailed]) (notFailed reason)
            · exact ⟨_, rfl⟩
        · exact ⟨_, rfl⟩

theorem splitStatus_isToldBy (reply : List ByteArray) : IsToldBy (splitStatus reply) reply := by
  by_cases isDone : ∃ payload, reply = statusDone :: payload
  · obtain ⟨payload, rfl⟩ := isDone
    have notFailed (reason : ByteArray) : statusDone :: payload ≠ [statusFailed, reason] :=
      fun same => statusFailed_ne_statusDone (List.cons.inj same).1.symm
    rw [splitStatus_done]
    constructor
    · simp
    · simp [notFailed]
    · simp
  by_cases isFailed : ∃ reason, reply = [statusFailed, reason]
  · obtain ⟨reason, rfl⟩ := isFailed
    rw [splitStatus_failed]
    constructor
    · simp [statusFailed_ne_statusDone]
    · simp [eq_comm]
    · simp [statusFailed_ne_statusDone]
  · have notDone := not_exists.mp isDone
    have notFailed := not_exists.mp isFailed
    obtain ⟨detail, malformed⟩ := exists_splitStatus_malformed notDone notFailed
    rw [malformed]
    constructor
    · simp [notDone]
    · simp [notFailed]
    · simp [notDone, notFailed]

/-! ## Completed exchanges -/

namespace FramedConversation

/--
What an exchange has made of a conversation if a reply was read: the reply
answers the request that was sent, it decides the result, and the client keeps
its socket.
-/
structure Completes (before : FramedConversation) (frames : List ByteArray)
    (result : Except LinkError (List ByteArray)) (after : FramedConversation) : Prop where
  client : after.client = before.client
  isReady : after.client.lifecycle.IsReadyIn after.parley
  answered : ∃ socket reply, before.client.lifecycle.socket = some socket ∧
    IsAnswered socket frames reply before.parley.history after.parley.history ∧
    IsToldBy result reply

variable {conversation : FramedConversation}

theorem Rests.completed (rests : conversation.Rests) {fuel : Nat} {frames : List ByteArray}
    {timeout : Duration} {result : Except LinkError (List ByteArray)} {client : FramedRequester}
    {after : Parley}
    (returned : conversation.client.exchange Parley.fabric fuel frames timeout
      conversation.parley = some (result, client, after))
    {during : List ParleyEvent} (told : after.deeds = during ++ conversation.parley.deeds)
    (replied : during.any ParleyEvent.isReply = true) :
    conversation.Completes frames result ⟨client, after⟩ := by
  obtain ⟨deeds, trace, reaches, reads⟩ := rests.exchange returned
  have same : during = deeds := List.append_cancel_right (told.symm.trans reaches.deeds_eq)
  subst same
  cases trace with
  | shut => cases replied
  | replaced isSocket left opened => rcases left with rfl | rfl <;> cases replied
  | lost isSocket left emptied => rcases left with rfl | rfl <;> cases replied
  | @answered socket _ isSocket =>
      obtain ⟨reply, isResult, leads, answered⟩ := reads socket List.mem_cons_self
      refine ⟨rfl, reaches.rests.isReadyIn ?_, socket, reply, isSocket,
        leads.isAnswered answered, ?_⟩
      · rw [Lifecycle.isLive, isSocket]
        rfl
      · rw [isResult]
        exact splitStatus_isToldBy reply

/-! ## One round after another -/

def converse : List FramedRound → FramedConversation →
    Option (List (Except LinkError (List ByteArray)) × FramedConversation)
  | [], conversation => some ([], conversation)
  | round :: rest, conversation =>
      (conversation.client.exchange Parley.fabric round.fuel round.asked round.timeout
        conversation.parley).bind fun (result, client, parley) =>
          (converse rest ⟨client, parley⟩).map fun (results, last) => (result :: results, last)

/-- However many rounds there are, they are completed over the same sockets. -/
theorem Rests.converses (rests : conversation.Rests) {id served : SocketId}
    (free : conversation.IsFree id served) {rounds : List FramedRound}
    (timely : ∀ round ∈ rounds, round.IsTimely) {later : List Interlude}
    (script : conversation.parley.script = rounds.flatMap FramedRound.script ++ later) :
    ∃ after,
      converse rounds conversation =
        some (rounds.map fun round => splitStatus round.given, ⟨conversation.client, after⟩) ∧
      after.history =
        rounds.reverse.flatMap (fun round => round.events id) ++ conversation.parley.history ∧
      IsFree ⟨conversation.client, after⟩ id served := by
  induction rounds generalizing conversation with
  | nil => exact ⟨conversation.parley, rfl, rfl, free⟩
  | cons round rest ih =>
      rw [List.flatMap_cons, List.append_assoc] at script
      obtain ⟨middle, exchanged, left, told, again⟩ :=
        rests.completes free (timely round List.mem_cons_self) script
      obtain ⟨_, -, reaches, -⟩ := rests.exchange exchanged
      obtain ⟨after, conversed, history, last⟩ := ih reaches.rests again
        (fun other member => timely other (List.mem_cons_of_mem _ member)) left
      refine ⟨after, ?_, ?_, last⟩
      · rw [converse, exchanged, Option.bind_some]
        dsimp only
        rw [conversed]
        rfl
      · rw [history, told, List.reverse_cons, List.flatMap_append, List.append_assoc,
          List.flatMap_singleton]

/-- What holds of frames that are exchanged after some operations. -/
structure DeliversFrames (conversation : FramedConversation) : Prop where
  /-- What the peer reads is a request that was transmitted last on some socket. -/
  received : ∀ wait frames network,
    conversation.parley.peer.receiveFrames Network.fabric wait conversation.parley.network =
        (.ok (some frames), network) →
      ∃ socket, ParleyEvent.progress socket conversation.parley.history = .asked frames
  /-- An answer without frames is refused, and what is owed is still owed. -/
  refused :
    conversation.parley.peer.sendFrames Network.fabric [] conversation.parley.network =
        (.error (.invalidArguments "reply has no frames"), conversation.parley.network) ∧
      (PeerMove.sendFrames []).perform conversation.parley = conversation.parley
  /-- An exchange that reads a reply returns what the peer answered to this very request. -/
  completed : ∀ fuel frames timeout result client after during,
    conversation.client.exchange Parley.fabric fuel frames timeout conversation.parley =
        some (result, client, after) →
      after.deeds = during ++ conversation.parley.deeds →
      during.any ParleyEvent.isReply = true →
      conversation.Completes frames result ⟨client, after⟩
  /-- An exchange reads the reply if its peer reads the request and answers in time. -/
  converses : ∀ id served rounds later, conversation.IsFree id served →
    (∀ round ∈ rounds, FramedRound.IsTimely round) →
    conversation.parley.script = rounds.flatMap FramedRound.script ++ later →
      ∃ results after, converse rounds conversation = some (results, after) ∧
        List.Forall₂ (fun result round => IsToldBy result round.given) results rounds ∧
        after.client = conversation.client ∧
        after.parley.history =
          rounds.reverse.flatMap (fun round => round.events id) ++ conversation.parley.history ∧
        after.IsFree id served

/--
Whatever happened to a framed client and its peer before, the peer reads the
frames of a request as they were sent, and an exchange in which a reply is read
returns what the frames of that reply say, over a socket that stays.  Where the
peer takes a request and answers it in time, a reply is read.
-/
theorem frames_are_delivered {conversation : FramedConversation} (begins : conversation.Begins)
    {operations : List FramedOperation} {reached : FramedConversation}
    (ran : run operations conversation = some reached) : reached.DeliversFrames := by
  obtain ⟨deeds, reaches, -⟩ := begins.rests.run ran
  have rests := reaches.rests
  constructor
  case received =>
    intro wait frames network received
    obtain ⟨socket, asked, isAsked, isOf⟩ :=
      rests.attends.asked_of_received Network.takes_receiveFrames received
    have same : frames = asked := isOf
    exact ⟨socket, same ▸ isAsked⟩
  case refused => exact ⟨rfl, Parley.perform_sendFrames_nil reached.parley⟩
  case completed =>
    intro fuel frames timeout result client after during returned told replied
    exact rests.completed returned told replied
  case converses =>
    intro id served rounds later free timely script
    obtain ⟨after, conversed, history, again⟩ := rests.converses free timely script
    refine ⟨_, _, conversed, ?_, rfl, history, again⟩
    rw [List.forall₂_map_left_iff]
    exact List.forall₂_same.mpr fun round _ => splitStatus_isToldBy round.given

end FramedConversation

namespace ThreeReplies

def byte (value : UInt8) : TimedFrame :=
  ⟨1000, ⟨#[value]⟩⟩

def empty : TimedFrame :=
  ⟨0, .empty⟩

/-- A reply that is all status, after two attempts to give none; a failure; half a failure. -/
def rounds : List FramedRound :=
  [{ fuel := 1, timeout := .ofMillis 100, request := [byte 1, empty], refusals := 2,
     wait := some (.ofMillis 10), reply := [⟨0, statusDone⟩] },
   { fuel := 1, timeout := .ofMillis 100, request := [empty],
     reply := [⟨0, statusFailed⟩, byte 255] },
   { fuel := 1, timeout := .ofMillis 100, request := [byte 2], reply := [⟨0, statusFailed⟩] }]

def conversation : FramedConversation where
  client := ⟨{ role := .requester, endpoint := ⟨"localhost", 5555⟩ }⟩
  parley :=
    { peer := ⟨{ role := .responder, endpoint := ⟨"*", 5555⟩ }⟩
      script := {} :: rounds.flatMap FramedRound.script }

def operations : List FramedOperation :=
  [.peer (.manage .start), .manage .start]

theorem timely : ∀ round ∈ rounds, FramedRound.IsTimely round := by
  intro round member
  simp only [rounds, List.mem_cons, List.not_mem_nil, or_false] at member
  rcases member with rfl | rfl | rfl <;> constructor <;> decide +kernel

end ThreeReplies

open ThreeReplies in
/-- The three replies are told apart, and all are read over the one socket. -/
theorem FramedConversation.frames_are_delivered_in_three_rounds :
    conversation.Begins ∧
      ∃ reached results after detail, run operations conversation = some reached ∧
        reached.DeliversFrames ∧
        converse rounds reached = some (results, after) ∧
        results = [.ok [], .error (.peerError "\uFFFD"), .error (.invalidState detail)] ∧
        after.IsFree ⟨1⟩ ⟨0⟩ := by
  have begins : conversation.Begins :=
    ⟨⟨{ endpoint := ⟨"localhost", 5555⟩ }, none, rfl⟩,
      ⟨⟨{ endpoint := ⟨"*", 5555⟩ }, none, rfl⟩, rfl, rfl⟩⟩
  obtain ⟨reached, ran⟩ : ∃ reached, run operations conversation = some reached := ⟨_, rfl⟩
  have delivers := frames_are_delivered begins ran
  have free : reached.IsFree ⟨1⟩ ⟨0⟩ := by
    cases ran
    refine ⟨rfl, rfl, _, _, rfl, rfl, ⟨by decide +kernel, rfl⟩, rfl, rfl⟩
  have script : reached.parley.script = rounds.flatMap FramedRound.script ++ [] := by
    cases ran
    rfl
  obtain ⟨results, after, conversed, told, -, -, again⟩ :=
    delivers.converses _ _ rounds [] free timely script
  obtain _ | ⟨first, _ | ⟨second, _ | ⟨third, ⟨⟩⟩⟩⟩ := told
  have notDone (payload : List ByteArray) : [statusFailed] ≠ statusDone :: payload := fun same =>
    statusFailed_ne_statusDone (List.cons.inj same).1
  have isDone := (first.done []).mpr rfl
  have isFailed := (second.failed "\uFFFD").mpr ⟨⟨#[255]⟩, rfl, by decide +kernel⟩
  obtain ⟨detail, isMalformed⟩ := third.malformed.mpr ⟨notDone, nofun⟩
  refine ⟨begins, reached, _, after, detail, ran, delivers, conversed, ?_, again⟩
  rw [isDone, isFailed, isMalformed]

end TaskLink
