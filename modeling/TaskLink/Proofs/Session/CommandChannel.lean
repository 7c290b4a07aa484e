import TaskLink.Proofs.Messaging.Ownership
import TaskLink.Session.Monitor
import TaskLink.Session.TaskSession

/-!
# A command channel beside a monitor

A session sends its commands while its monitor may ask for another socket at
any moment: before each operation of the session it raises as many requests as
were laid down for it.  A history tells of the requests, of the checks for
them, and of the sockets that were opened and sent over; it changes nothing
that the operations do.
-/

namespace TaskLink

/-! ## Events -/

/-- What the monitor or the session did; the latest event of a history comes first. -/
inductive ChannelEvent where
  /-- The monitor made a request. -/
  | raised
  /-- The session took the request, if there was one. -/
  | taken (requested : Bool)
  | opened (socket : SocketId)
  | refused (fault : OpenFault)
  /-- A socket accepted a message. -/
  | sent (socket : SocketId) (message : ByteArray)
  /-- A socket refused a message. -/
  | unsent (socket : SocketId)

namespace ChannelEvent

/-- Whether the monitor did it. -/
def isRaise : ChannelEvent → Bool
  | .raised => true
  | _ => false

def isSessions (event : ChannelEvent) : Bool :=
  !event.isRaise

def isAttempt : ChannelEvent → Bool
  | .sent _ _ | .unsent _ => true
  | _ => false

def pending : List ChannelEvent → Bool
  | [] => false
  | .raised :: _ => true
  | .taken _ :: _ => false
  | _ :: earlier => pending earlier

def current (first : Option SocketId) : List ChannelEvent → Option SocketId
  | [] => first
  | .opened socket :: _ => some socket
  | .refused _ :: _ => none
  | _ :: earlier => current first earlier

/-- Nothing is taken, and all that is sent is a message over the socket that was opened last. -/
def AreOver (first : Option SocketId) (message : ByteArray) : List ChannelEvent → Prop
  | [] => True
  | .raised :: earlier | .opened _ :: earlier | .refused _ :: earlier =>
      AreOver first message earlier
  | .taken _ :: _ => False
  | .sent socket payload :: earlier =>
      current first earlier = some socket ∧ payload = message ∧ AreOver first message earlier
  | .unsent socket :: earlier => current first earlier = some socket ∧ AreOver first message earlier

def BeginWithAttempt (deeds : List ChannelEvent) : Prop :=
  ∃ later attempt, deeds = later ++ [attempt] ∧ attempt.isAttempt = true

variable {first : Option SocketId} {message : ByteArray} {later earlier : List ChannelEvent}

theorem current_append (first : Option SocketId) (later earlier : List ChannelEvent) :
    current first (later ++ earlier) = current (current first earlier) later := by
  induction later with
  | nil => rfl
  | cons event rest ih =>
      cases event with
      | opened socket | refused fault => rfl
      | raised | taken requested | sent socket message | unsent socket => exact ih

theorem AreOver.append (isOver : AreOver first message earlier)
    (next : AreOver (current first earlier) message later) :
    AreOver first message (later ++ earlier) := by
  induction later with
  | nil => exact isOver
  | cons event rest ih =>
      cases event with
      | raised | opened socket | refused fault => exact ih next
      | taken requested => exact next.elim
      | sent socket payload =>
          obtain ⟨isCurrent, isMessage, next⟩ := next
          exact ⟨(current_append first rest earlier).trans isCurrent, isMessage, ih next⟩
      | unsent socket =>
          obtain ⟨isCurrent, next⟩ := next
          exact ⟨(current_append first rest earlier).trans isCurrent, ih next⟩

/-- What goes on over a socket that was just opened does so wherever it is opened. -/
theorem AreOver.after_opening {fresh : SocketId} (isOver : AreOver (some fresh) message later)
    (first : Option SocketId) : AreOver first message (later ++ [.opened fresh]) := by
  have opening : AreOver first message [.opened fresh] := trivial
  exact opening.append isOver

/-- What is sent over is the message, and its socket the one that was opened last. -/
theorem AreOver.of_sent {socket : SocketId} {payload : ByteArray}
    (isOver : AreOver first message (later ++ .sent socket payload :: earlier)) :
    current first earlier = some socket ∧ payload = message := by
  induction later with
  | nil => exact ⟨isOver.1, isOver.2.1⟩
  | cons event rest ih =>
      cases event with
      | raised | opened socket | refused fault => exact ih isOver
      | taken requested => exact isOver.elim
      | sent socket payload => exact ih isOver.2.2
      | unsent socket => exact ih isOver.2

theorem AreOver.untaken (isOver : AreOver first message later) (requested : Bool) :
    .taken requested ∉ later := by
  intro member
  induction later with
  | nil => cases member
  | cons event rest ih =>
      cases member with
      | head => exact isOver.elim
      | tail _ member =>
          cases event with
          | raised | opened socket | refused fault => exact ih isOver member
          | taken requested => exact isOver.elim
          | sent socket payload => exact ih isOver.2.2 member
          | unsent socket => exact ih isOver.2 member

/-- A current socket that was not there at first has been opened. -/
theorem opened_of_current {socket : SocketId} {deeds : List ChannelEvent}
    (isCurrent : current none deeds = some socket) : .opened socket ∈ deeds := by
  induction deeds with
  | nil => cases isCurrent
  | cons event earlier ih =>
      cases event with
      | opened fresh =>
          cases isCurrent
          exact List.mem_cons_self
      | refused fault => cases isCurrent
      | raised | taken requested | sent socket message | unsent socket =>
          exact List.mem_cons_of_mem _ (ih isCurrent)

theorem BeginWithAttempt.append (begins : BeginWithAttempt earlier)
    (later : List ChannelEvent) : BeginWithAttempt (later ++ earlier) := by
  obtain ⟨rest, attempt, rfl, isAttempt⟩ := begins
  exact ⟨later ++ rest, attempt, (List.append_assoc _ _ _).symm, isAttempt⟩

/-- As long as nothing is taken a request that was made stays pending. -/
theorem pending_append (untaken : ∀ requested, .taken requested ∉ later) :
    pending (later ++ earlier) = (later.any isRaise || pending earlier) := by
  induction later with
  | nil => rfl
  | cons event rest ih =>
      have rest := ih fun requested member => untaken requested (List.mem_cons_of_mem _ member)
      cases event with
      | raised => rfl
      | taken requested => exact absurd List.mem_cons_self (untaken requested)
      | opened socket | refused fault | sent socket message | unsent socket => exact rest

end ChannelEvent

/-! ## Surroundings with a monitor -/

/-- Surroundings in which a monitor raises requests before the session's next operations. -/
structure Alarmed (σ : Type) where
  surroundings : σ
  vigil : Vigil
  /-- How many requests come before each of the next operations. -/
  alarms : List Nat := []
  history : List ChannelEvent := []

namespace Alarmed

variable {σ : Type} (base : Fabric σ)

/-- The monitor makes a request. -/
def raise (alarmed : Alarmed σ) : Alarmed σ :=
  { alarmed with
    vigil := alarmed.vigil.raise (base.clock alarmed.surroundings)
    history := .raised :: alarmed.history }

def raiseTimes : Nat → Alarmed σ → Alarmed σ
  | 0, alarmed => alarmed
  | count + 1, alarmed => raiseTimes count (alarmed.raise base)

def pass (alarmed : Alarmed σ) : Alarmed σ :=
  match alarmed.alarms with
  | [] => alarmed
  | count :: later => raiseTimes base count { alarmed with alarms := later }

def around {α : Type} (operation : σ → α × σ) (event : α → Option ChannelEvent)
    (alarmed : Alarmed σ) : α × Alarmed σ :=
  let passed := alarmed.pass base
  match operation passed.surroundings with
  | (value, s) =>
      (value, { passed with
        surroundings := s, history := (event value).toList ++ passed.history })

def openingEvent : Except OpenFault SocketId → Option ChannelEvent
  | .ok socket => some (.opened socket)
  | .error fault => some (.refused fault)

def sendingEvent (socket : SocketId) (message : ByteArray) :
    Except SocketFault Unit → Option ChannelEvent
  | .ok () => some (.sent socket message)
  | .error _ => some (.unsent socket)

def change (operation : σ → σ) (alarmed : Alarmed σ) : Alarmed σ :=
  (alarmed.around base (fun s => ((), operation s)) fun _ => none).2

def fabric : Fabric (Alarmed σ) where
  newContext := around base base.newContext fun _ => none
  openSocket context role endpoint options :=
    around base (base.openSocket context role endpoint options) openingEvent
  closeSocket socket := change base (base.closeSocket socket)
  send socket message more :=
    around base (base.send socket message more) (sendingEvent socket message)
  receive socket := around base (base.receive socket) fun _ => none
  poll socket readiness wait := around base (base.poll socket readiness wait) fun _ => none
  backlog socket alarmed := base.backlog socket alarmed.surroundings
  clock alarmed := base.clock alarmed.surroundings
  sleep span := change base (base.sleep span)

/-- A source of preemption that knows nothing of the monitor. -/
def asking (ask : Preempt σ) : Preempt (Alarmed σ) :=
  fun bits => around base (ask bits) fun _ => none

/-- The session takes the request, if there is one by now. -/
def takeRequest (alarmed : Alarmed σ) : Bool × Alarmed σ :=
  let passed := alarmed.pass base
  match passed.vigil.takeRequest with
  | (requested, vigil) =>
      (requested, { passed with vigil := vigil, history := .taken requested :: passed.history })

def watchers : Watchers (Alarmed σ) where
  start _ _ _ _ alarmed :=
    (.ok ⟨0⟩, { alarmed with vigil := { lastAlive := base.clock alarmed.surroundings } })
  stop _ alarmed := alarmed
  takeRequest _ := takeRequest base
  latest _ alarmed := alarmed.vigil.latest

/-! ## How a history grows -/

/--
The history went on by what the session did and by any number of requests, of
which none was taken.
-/
def Grows (before : Alarmed σ) (deeds : List ChannelEvent) (after : Alarmed σ) : Prop :=
  ∃ recent, after.history = recent ++ before.history ∧
    recent.filter ChannelEvent.isSessions = deeds ∧
    after.vigil.requested = (recent.any ChannelEvent.isRaise || before.vigil.requested)

variable {base} {before middle after : Alarmed σ} {deeds earlier later : List ChannelEvent}

theorem Grows.refl (alarmed : Alarmed σ) : Grows alarmed [] alarmed :=
  ⟨[], rfl, rfl, rfl⟩

theorem Grows.trans (one : Grows before earlier middle) (two : Grows middle later after) :
    Grows before (later ++ earlier) after := by
  obtain ⟨past, history, rfl, flag⟩ := one
  obtain ⟨recent, history', rfl, flag'⟩ := two
  refine ⟨recent ++ past, ?_, List.filter_append recent past, ?_⟩
  · rw [history', history, List.append_assoc]
  · rw [flag', flag, List.any_append, Bool.or_assoc]

theorem raiseTimes_grows (count : Nat) (alarmed : Alarmed σ) :
    Grows alarmed [] (raiseTimes base count alarmed) := by
  induction count generalizing alarmed with
  | zero => exact .refl alarmed
  | succ count ih =>
      have raised : Grows alarmed [] (alarmed.raise base) := ⟨[.raised], rfl, rfl, rfl⟩
      exact raised.trans (ih _)

theorem pass_grows (base : Fabric σ) (alarmed : Alarmed σ) :
    Grows alarmed [] (alarmed.pass base) := by
  unfold pass
  split
  · exact .refl alarmed
  · exact raiseTimes_grows _ { alarmed with alarms := _ }

theorem around_grows {α : Type} (operation : σ → α × σ) (event : α → Option ChannelEvent)
    (untaken : ∀ value told, event value = some told → told.isSessions = true)
    (alarmed : Alarmed σ) :
    Grows alarmed (event (alarmed.around base operation event).1).toList
      (alarmed.around base operation event).2 := by
  unfold around
  dsimp only
  generalize operation (alarmed.pass base).surroundings = outcome
  obtain ⟨value, s⟩ := outcome
  have own : Grows (alarmed.pass base) (event value).toList
      { alarmed.pass base with
        surroundings := s, history := (event value).toList ++ (alarmed.pass base).history } := by
    refine ⟨(event value).toList, rfl, ?_, ?_⟩
    · cases told : event value with
      | none => rfl
      | some found => simp [untaken value found told]
    · cases told : event value with
      | none => rfl
      | some found =>
          have isSessions := untaken value found told
          unfold ChannelEvent.isSessions at isSessions
          simp_all
  simpa using (pass_grows base alarmed).trans own

theorem quiet_grows {α : Type} (operation : σ → α × σ) (alarmed : Alarmed σ) :
    Grows alarmed [] (alarmed.around base operation fun _ => none).2 :=
  around_grows operation (fun _ => none) (by simp) alarmed

section Operations

variable (base) (socket : SocketId) (alarmed : Alarmed σ)

theorem newContext_grows : Grows alarmed [] ((fabric base).newContext alarmed).2 :=
  quiet_grows _ alarmed

theorem closeSocket_grows : Grows alarmed [] ((fabric base).closeSocket socket alarmed) :=
  quiet_grows (fun s => ((), base.closeSocket socket s)) alarmed

theorem receive_grows : Grows alarmed [] ((fabric base).receive socket alarmed).2 :=
  quiet_grows _ alarmed

theorem poll_grows (readiness : Readiness) (wait : Wait) :
    Grows alarmed [] ((fabric base).poll socket readiness wait alarmed).2 :=
  quiet_grows _ alarmed

theorem openSocket_grows (context : ContextId) (role : SocketRole) (endpoint : Endpoint)
    (options : SocketOptions) :
    Grows alarmed
      (openingEvent ((fabric base).openSocket context role endpoint options alarmed).1).toList
      ((fabric base).openSocket context role endpoint options alarmed).2 := by
  refine around_grows _ _ ?_ alarmed
  intro result told isTold
  cases result <;> cases isTold <;> rfl

theorem send_grows (message : ByteArray) (more : Bool) :
    Grows alarmed
      (sendingEvent socket message ((fabric base).send socket message more alarmed).1).toList
      ((fabric base).send socket message more alarmed).2 := by
  refine around_grows _ _ ?_ alarmed
  intro result told isTold
  cases result <;> cases isTold <;> rfl

end Operations

/-! ### Taking a request -/

/-- A check tells whether a request was pending, and leaves none. -/
theorem takeRequest_cases (base : Fabric σ) (alarmed : Alarmed σ)
    (flag : alarmed.vigil.requested = ChannelEvent.pending alarmed.history) :
    ∃ waiting, (∀ event ∈ waiting, event = .raised) ∧
      (alarmed.takeRequest base).1 = ChannelEvent.pending (waiting ++ alarmed.history) ∧
      (alarmed.takeRequest base).2.history =
        .taken (alarmed.takeRequest base).1 :: (waiting ++ alarmed.history) ∧
      (alarmed.takeRequest base).2.vigil.requested = false := by
  obtain ⟨waiting, history, undone, requested⟩ := pass_grows base alarmed
  have raises : ∀ event ∈ waiting, event = .raised := by
    intro event member
    have notSessions := List.filter_eq_nil_iff.mp undone event member
    cases event with
    | raised => rfl
    | _ => exact absurd rfl notSessions
  have untaken : ∀ taken, .taken taken ∉ waiting := by
    intro taken member
    cases raises _ member
  refine ⟨waiting, raises, ?_, ?_, rfl⟩
  · rw [ChannelEvent.pending_append untaken, ← flag]
    exact requested
  · rw [← history]
    rfl

end Alarmed

end TaskLink
