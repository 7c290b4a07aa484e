import TaskLink.Messaging.Network
import TaskLink.Session.Monitor

/-!
# Requests of a heartbeat monitor

The loop of a monitor runs beside those who take its requests.  Its rounds are
broken up into steps, each of which does at most one thing that the others can
see, and anything may happen between two of them.  A history tells what the
monitor heard, when it asked for a replacement and what those were told who
came to take the request.
-/

namespace TaskLink

namespace Vigil

/-- A live heartbeat is kept and counts as a sign of life; all else changes nothing. -/
theorem hear_cases (vigil : Vigil) (message : ByteArray) (now : Nat) :
    (Heartbeat.isAlive (decodeLenient message) = true ∧ vigil.hear message now =
      { vigil with latest := some (decodeLenient message), lastAlive := now }) ∨
    (¬ Heartbeat.isAlive (decodeLenient message) = true ∧ vigil.hear message now = vigil) := by
  unfold hear
  dsimp only
  split
  · next alive => exact Or.inl ⟨alive, rfl⟩
  · next dead => exact Or.inr ⟨dead, rfl⟩

theorem isOverdue_iff {vigil : Vigil} {limit : Option Duration} {now : Nat} :
    vigil.isOverdue limit now = true ↔
      ∃ span, limit = some span ∧ span.nanos < now - vigil.lastAlive := by
  cases limit <;> simp [isOverdue]

end Vigil

/-! ## Events -/

/-- What happened around a monitor; the latest event of a history comes first. -/
inductive VigilEvent where
  | begun (now : Nat)
  /-- A poll returned a message, the newest of those that waited. -/
  | heard (message : ByteArray) (now : Nat)
  | raised (now : Nat)
  /-- Somebody came for the request, and was told whether there was one. -/
  | taken (requested : Bool)

namespace VigilEvent

/-- The moment of an event from which silence counts: a start, a live heartbeat or a request. -/
def sign? : VigilEvent → Option Nat
  | .begun now | .raised now => some now
  | .heard message now => if Heartbeat.isAlive (decodeLenient message) then some now else none
  | .taken _ => none

def signs (history : List VigilEvent) : List Nat :=
  history.filterMap sign?

/-- Whether a request was made that nobody has come for since. -/
def pending : List VigilEvent → Bool
  | [] => false
  | .raised _ :: _ => true
  | .taken _ :: _ => false
  | .begun _ :: earlier | .heard _ _ :: earlier => pending earlier

def isRaise : VigilEvent → Bool
  | .raised _ => true
  | _ => false

def isDelivery : VigilEvent → Bool
  | .taken requested => requested
  | _ => false

/--
Whether an event is in order after others: a request comes when there is a
limit and every sign is longer past, and whoever comes for one is told whether
it is pending.
-/
def IsDue (limit : Option Duration) (earlier : List VigilEvent) : VigilEvent → Prop
  | .raised now => ∃ span, limit = some span ∧ ∀ sign ∈ signs earlier, sign + span.nanos < now
  | .taken requested => requested = pending earlier
  | _ => True

def AreDue (limit : Option Duration) : List VigilEvent → Prop
  | [] => True
  | event :: earlier => event.IsDue limit earlier ∧ AreDue limit earlier

/-- A message is a sign if it is a live heartbeat. -/
theorem mem_signs_heard {message : ByteArray} {now sign : Nat} {earlier : List VigilEvent}
    (member : sign ∈ signs (.heard message now :: earlier)) :
    (Heartbeat.isAlive (decodeLenient message) = true ∧ sign = now) ∨ sign ∈ signs earlier := by
  unfold signs at member ⊢
  rw [List.filterMap_cons, sign?] at member
  split at member
  · exact Or.inr member
  · next found isSign =>
      split at isSign
      · next alive =>
          cases isSign
          exact (List.mem_cons.mp member).imp_left fun same => ⟨alive, same⟩
      · cases isSign

theorem AreDue.not_delivered {history : List VigilEvent} (due : AreDue none history) :
    pending history = false ∧ .taken true ∉ history := by
  induction history with
  | nil => exact ⟨rfl, List.not_mem_nil⟩
  | cons event earlier ih =>
      obtain ⟨isDue, due⟩ := due
      obtain ⟨idle, undelivered⟩ := ih due
      cases event with
      | raised now =>
          obtain ⟨span, impossible, -⟩ := isDue
          cases impossible
      | taken requested =>
          have told : requested = false := isDue.trans idle
          subst told
          exact ⟨rfl, by simpa using undelivered⟩
      | begun now | heard message now => exact ⟨idle, by simpa using undelivered⟩

/-- No request is handed over twice: a pending one has still to be handed over. -/
theorem AreDue.countP_isDelivery_le {limit : Option Duration} {history : List VigilEvent}
    (due : AreDue limit history) :
    history.countP isDelivery + (pending history).toNat ≤ history.countP isRaise := by
  induction history with
  | nil => exact Nat.le_refl 0
  | cons event earlier ih =>
      obtain ⟨isDue, due⟩ := due
      have bound := ih due
      cases event with
      | raised now =>
          have atMost := Bool.toNat_le (pending earlier)
          simp only [List.countP_cons, isDelivery, isRaise, pending]
          simp
          omega
      | taken requested =>
          have told : requested = pending earlier := isDue
          rw [List.countP_cons, List.countP_cons_of_neg Bool.false_ne_true, isDelivery, told]
          cases waits : pending earlier <;> simpa [pending, waits] using bound
      | begun now | heard message now => simpa [isDelivery, isRaise, pending] using bound

end VigilEvent

/-! ## The loop, step by step -/

inductive Station where
  | listening
  | hearing (message : ByteArray)
  | judging
  | renewing
  | asking
  | resting

/--
What the loop may rely on where it stands: that every sign was counted, that
it is about to count anew, or that every sign is longer past than the limit.
-/
def Station.Fits (limit : Option Duration) (signs : List Nat)
    (lastAlive now : Nat) : Station → Prop
  | .listening | .judging => ∀ sign ∈ signs, sign ≤ lastAlive
  | .hearing message =>
      Heartbeat.isAlive (decodeLenient message) = true ∨ ∀ sign ∈ signs, sign ≤ lastAlive
  | .renewing | .asking => ∃ span, limit = some span ∧ ∀ sign ∈ signs, sign + span.nanos < now
  | .resting => True

theorem Station.Fits.later {limit : Option Duration} {signs : List Nat} {lastAlive now next : Nat}
    {station : Station} (fits : station.Fits limit signs lastAlive now) (forward : now ≤ next) :
    station.Fits limit signs lastAlive next := by
  cases station with
  | renewing | asking =>
      obtain ⟨span, isLimit, long⟩ := fits
      exact ⟨span, isLimit, fun sign member => Nat.lt_of_lt_of_le (long sign member) forward⟩
  | listening | judging | hearing message | resting => exact fits

structure Lookout (σ : Type) where
  monitor : HeartbeatMonitor
  surroundings : σ
  station : Station := .listening
  history : List VigilEvent

namespace Lookout

variable {σ : Type} (fabric : Fabric σ)

def begin (monitor : HeartbeatMonitor) (s : σ) : Lookout σ :=
  { monitor := monitor, surroundings := s, history := [.begun (fabric.clock s)] }

def noting (lookout : Lookout σ) (vigil : Vigil) : Lookout σ :=
  { lookout with monitor := { lookout.monitor with vigil := vigil } }

def poll (lookout : Lookout σ) : Lookout σ :=
  if lookout.monitor.running then
    match lookout.monitor.subscriber.receiveLatest fabric (some monitorSlice)
        lookout.surroundings with
    | (.ok (some message), s) =>
        { lookout with
          surroundings := s
          station := .hearing message
          history := .heard message (fabric.clock s) :: lookout.history }
    | (.ok none, s) => { lookout with surroundings := s, station := .judging }
    | (.error _, s) =>
        { lookout with surroundings := fabric.sleep monitorSlice s, station := .judging }
  else lookout

def proceed (lookout : Lookout σ) : Lookout σ :=
  let now := fabric.clock lookout.surroundings
  let vigil := lookout.monitor.vigil
  match lookout.station with
  | .listening => lookout.poll fabric
  | .hearing message => { lookout.noting (vigil.hear message now) with station := .judging }
  | .judging =>
      if vigil.isOverdue lookout.monitor.limit now then { lookout with station := .renewing }
      else { lookout with station := .listening }
  | .renewing =>
      match lookout.monitor.subscriber.lifecycle.renew fabric lookout.surroundings with
      | (_, lifecycle, s) =>
          { lookout with
            monitor := { lookout.monitor with subscriber := ⟨lifecycle⟩ }
            surroundings := s
            station := .asking }
  | .asking =>
      { lookout.noting { vigil with requested := true } with
        station := .resting
        history := .raised now :: lookout.history }
  | .resting => { lookout.noting { vigil with lastAlive := now } with station := .listening }

def take (lookout : Lookout σ) : Lookout σ :=
  match lookout.monitor.vigil.takeRequest with
  | (requested, vigil) =>
      { lookout.noting vigil with history := .taken requested :: lookout.history }

end Lookout

/-- What happens next around a monitor: a step of its loop, or something that others do. -/
inductive LookoutMove (σ : Type) where
  | proceed
  | take
  /-- The monitor is told to stop. -/
  | halt
  /-- Others act on the surroundings. -/
  | meanwhile (s : σ)

namespace Lookout

variable {σ : Type} (fabric : Fabric σ)

/-- The lookout after a move. -/
def perform (lookout : Lookout σ) : LookoutMove σ → Lookout σ
  | .proceed => lookout.proceed fabric
  | .take => lookout.take
  | .halt => { lookout with monitor := { lookout.monitor with running := false } }
  | .meanwhile s => { lookout with surroundings := s }

def run (moves : List (LookoutMove σ)) (lookout : Lookout σ) : Lookout σ :=
  moves.foldl (perform fabric) lookout

def IsForward : List (LookoutMove σ) → Lookout σ → Prop
  | [], _ => True
  | move :: rest, lookout =>
      fabric.clock lookout.surroundings ≤ fabric.clock (lookout.perform fabric move).surroundings ∧
        IsForward rest (lookout.perform fabric move)

instance IsForward.decidable :
    (moves : List (LookoutMove σ)) → (lookout : Lookout σ) →
      Decidable (IsForward fabric moves lookout)
  | [], _ => .isTrue trivial
  | _ :: rest, _ =>
      have := decidable rest
      inferInstanceAs (Decidable (_ ∧ _))

variable {fabric}

/-! ## Steps and rounds -/

/-- Polling changes nothing of the monitor, and tells at most of what was heard. -/
theorem poll_cases (fabric : Fabric σ) (lookout : Lookout σ) :
    lookout.poll fabric = lookout ∨
    (∃ message s, lookout.poll fabric =
      { lookout with
        surroundings := s
        station := .hearing message
        history := .heard message (fabric.clock s) :: lookout.history }) ∨
    ∃ s, lookout.poll fabric = { lookout with surroundings := s, station := .judging } := by
  unfold poll
  split
  · split
    · exact Or.inr (Or.inl ⟨_, _, rfl⟩)
    · exact Or.inr (Or.inr ⟨_, rfl⟩)
    · exact Or.inr (Or.inr ⟨_, rfl⟩)
  · exact Or.inl rfl

inductive Proceeds (fabric : Fabric σ) : Lookout σ → Lookout σ → Prop where
  | done (lookout : Lookout σ) : Proceeds fabric lookout lookout
  | step {lookout after : Lookout σ} (later : Proceeds fabric (lookout.proceed fabric) after) :
      Proceeds fabric lookout after

/-- From where it judges the loop comes round as the monitor does that judges. -/
theorem Proceeds.judge (fabric : Fabric σ) (lookout : Lookout σ)
    (judges : lookout.station = .judging) :
    ∃ after, Proceeds fabric lookout after ∧ after.station = .listening ∧
      (after.monitor, after.surroundings) =
        lookout.monitor.judge fabric lookout.surroundings := by
  obtain ⟨monitor, s, station, history⟩ := lookout
  cases judges
  unfold HeartbeatMonitor.judge
  cases overdue : monitor.vigil.isOverdue monitor.limit (fabric.clock s) with
  | false =>
      refine ⟨⟨monitor, s, .listening, history⟩, .step ?_, rfl, ?_⟩
      · simpa [proceed, overdue] using .done _
      · simp
  | true =>
      -- The subscriber is replaced, the request made, and the wait begun anew.
      refine ⟨_, .step (.step (.step (.step (.done _)))), ?_, ?_⟩ <;>
        simp [proceed, overdue, noting, Vigil.raise]

/-- Left to itself, the loop comes round as a running monitor does. -/
theorem Proceeds.watch (lookout : Lookout σ) (listens : lookout.station = .listening)
    (running : lookout.monitor.running = true) :
    ∃ after, Proceeds fabric (lookout.proceed fabric) after ∧ after.station = .listening ∧
      (after.monitor, after.surroundings) =
        lookout.monitor.watch fabric lookout.surroundings := by
  obtain ⟨monitor, s, station, history⟩ := lookout
  cases listens
  have running : monitor.running = true := running
  rw [HeartbeatMonitor.watch, if_pos running]
  unfold HeartbeatMonitor.listen
  unfold proceed poll
  dsimp only
  rw [if_pos running]
  cases received : monitor.subscriber.receiveLatest fabric (some monitorSlice) s with
  | mk result after =>
      cases result with
      | error error =>
          exact judge fabric ⟨monitor, fabric.sleep monitorSlice after, .judging, history⟩ rfl
      | ok message =>
          cases message with
          | none => exact judge fabric ⟨monitor, after, .judging, history⟩ rfl
          | some message =>
              obtain ⟨round, proceeds, ends, same⟩ := judge fabric
                ⟨{ monitor with vigil := monitor.vigil.hear message (fabric.clock after) }, after,
                  .judging, .heard message (fabric.clock after) :: history⟩ rfl
              exact ⟨round, .step proceeds, ends, same⟩

/-! ## What is so at every moment -/

/-- The history is in order, and the monitor has found out what it tells. -/
structure IsSound (fabric : Fabric σ) (limit : Option Duration) (lookout : Lookout σ) : Prop where
  limit_eq : lookout.monitor.limit = limit
  latest_alive : ∀ text, lookout.monitor.vigil.latest = some text → Heartbeat.isAlive text = true
  areDue : VigilEvent.AreDue limit lookout.history
  requested_eq : lookout.monitor.vigil.requested = VigilEvent.pending lookout.history
  past : ∀ sign ∈ VigilEvent.signs lookout.history, sign ≤ fabric.clock lookout.surroundings
  fits : lookout.station.Fits limit (VigilEvent.signs lookout.history)
    lookout.monitor.vigil.lastAlive (fabric.clock lookout.surroundings)

namespace IsSound

variable {limit : Option Duration} {lookout : Lookout σ} (sound : lookout.IsSound fabric limit)

include sound

/-- Where the loop has come so far only time passes. -/
theorem meanwhile {s : σ} (forward : fabric.clock lookout.surroundings ≤ fabric.clock s) :
    IsSound fabric limit { lookout with surroundings := s } :=
  { sound with
    past sign member := Nat.le_trans (sound.past sign member) forward
    fits := sound.fits.later forward }

theorem poll
    (forward : fabric.clock lookout.surroundings ≤ fabric.clock (lookout.poll fabric).surroundings)
    (listens : lookout.station = .listening) : (lookout.poll fabric).IsSound fabric limit := by
  have counted := sound.fits
  rw [listens] at counted
  obtain same | ⟨message, s, same⟩ | ⟨s, same⟩ := lookout.poll_cases fabric
  · rwa [same]
  · rw [same] at forward ⊢
    refine { sound with areDue := ⟨trivial, sound.areDue⟩, past := ?_, fits := ?_ }
    · intro sign member
      rcases VigilEvent.mem_signs_heard member with ⟨-, rfl⟩ | earlier
      · exact Nat.le_refl _
      · exact Nat.le_trans (sound.past sign earlier) forward
    · by_cases alive : Heartbeat.isAlive (decodeLenient message) = true
      · exact Or.inl alive
      · refine Or.inr fun sign member => ?_
        rcases VigilEvent.mem_signs_heard member with ⟨isAlive, -⟩ | earlier
        · exact absurd isAlive alive
        · exact counted sign earlier
  · rw [same] at forward ⊢
    exact { sound.meanwhile forward with fits := counted }

theorem proceed
    (forward : fabric.clock lookout.surroundings ≤
      fabric.clock (lookout.proceed fabric).surroundings) :
    (lookout.proceed fabric).IsSound fabric limit := by
  have fits := sound.fits
  cases station : lookout.station with
  | listening =>
      have same : lookout.proceed fabric = lookout.poll fabric := by
        rw [Lookout.proceed, station]
      rw [same] at forward ⊢
      exact sound.poll forward station
  | hearing message =>
      rw [station] at fits
      rw [Lookout.proceed, station]
      dsimp only
      obtain ⟨alive, heard⟩ | ⟨dead, heard⟩ :=
        lookout.monitor.vigil.hear_cases message (fabric.clock lookout.surroundings)
      · rw [heard]
        exact { sound with
          latest_alive := by
            rintro text ⟨⟩
            exact alive
          fits := sound.past }
      · rw [heard]
        exact { sound with fits := fits.resolve_left dead }
  | judging =>
      rw [station] at fits
      rw [Lookout.proceed, station]
      dsimp only
      split
      · next overdue =>
          obtain ⟨span, isLimit, long⟩ := Vigil.isOverdue_iff.mp overdue
          refine { sound with fits := ⟨span, sound.limit_eq.symm.trans isLimit, ?_⟩ }
          intro sign member
          have counted := fits sign member
          dsimp only
          omega
      · exact { sound with fits := fits }
  | renewing =>
      rw [station] at fits
      rw [Lookout.proceed, station] at forward ⊢
      have later := sound.meanwhile forward
      have still : Station.asking.Fits limit (VigilEvent.signs lookout.history)
          lookout.monitor.vigil.lastAlive (fabric.clock lookout.surroundings) := fits
      exact { later with fits := still.later forward }
  | asking =>
      rw [station] at fits
      rw [Lookout.proceed, station]
      refine { sound with
        areDue := ⟨fits, sound.areDue⟩, requested_eq := rfl, past := ?_, fits := trivial }
      intro sign member
      rcases List.mem_cons.mp member with rfl | earlier
      · exact Nat.le_refl _
      · exact sound.past sign earlier
  | resting =>
      rw [Lookout.proceed, station]
      exact { sound with fits := sound.past }

theorem take : lookout.take.IsSound fabric limit :=
  { sound with areDue := ⟨sound.requested_eq, sound.areDue⟩, requested_eq := rfl }

theorem perform (move : LookoutMove σ)
    (forward : fabric.clock lookout.surroundings ≤
      fabric.clock (lookout.perform fabric move).surroundings) :
    (lookout.perform fabric move).IsSound fabric limit := by
  cases move with
  | proceed => exact sound.proceed forward
  | take => exact sound.take
  | halt => exact { sound with }
  | meanwhile s => exact sound.meanwhile forward

theorem run {moves : List (LookoutMove σ)} (forward : lookout.IsForward fabric moves) :
    (lookout.run fabric moves).IsSound fabric limit := by
  induction moves generalizing lookout with
  | nil => exact sound
  | cons move rest ih => exact ih (sound.perform move forward.1) forward.2

end IsSound

/-! ## What was kept stays -/

theorem isSome_latest_perform (move : LookoutMove σ) {lookout : Lookout σ}
    (kept : lookout.monitor.vigil.latest.isSome = true) :
    (lookout.perform fabric move).monitor.vigil.latest.isSome = true := by
  cases move with
  | proceed =>
      change (lookout.proceed fabric).monitor.vigil.latest.isSome = true
      unfold proceed
      dsimp only
      split
      · obtain same | ⟨message, s, same⟩ | ⟨s, same⟩ := lookout.poll_cases fabric <;>
          rwa [same]
      · next message _ =>
          obtain ⟨-, heard⟩ | ⟨-, heard⟩ :=
            lookout.monitor.vigil.hear_cases message (fabric.clock lookout.surroundings)
          · rw [heard]
            rfl
          · rwa [heard]
      · split <;> exact kept
      all_goals exact kept
  | take => exact kept
  | halt => exact kept
  | meanwhile s => exact kept

theorem isSome_latest_run (moves : List (LookoutMove σ)) {lookout : Lookout σ}
    (kept : lookout.monitor.vigil.latest.isSome = true) :
    (lookout.run fabric moves).monitor.vigil.latest.isSome = true := by
  induction moves generalizing lookout with
  | nil => exact kept
  | cons move rest ih => exact ih (isSome_latest_perform move kept)

/-- A monitor that has just been started has found out nothing. -/
theorem begin_isSound {spawned : Except String Unit} {context : ContextId} {endpoint : Endpoint}
    {options : SocketOptions} {limit : Option Duration} {monitor : HeartbeatMonitor} {s begun : σ}
    (started : HeartbeatMonitor.start fabric spawned context endpoint options limit s =
      (.ok monitor, begun)) : (begin fabric monitor begun).IsSound fabric limit := by
  unfold HeartbeatMonitor.start at started
  split at started
  · cases started
  · split at started
    · cases started
    · split at started
      · cases started
        exact {
          limit_eq := rfl
          latest_alive := by rintro text ⟨⟩
          areDue := ⟨trivial, trivial⟩
          requested_eq := rfl
          past := by simp [begin, VigilEvent.signs, VigilEvent.sign?]
          fits := by simp [begin, Station.Fits, VigilEvent.signs, VigilEvent.sign?] }
      · cases started

/--
Whatever happens between two steps of a monitor's loop, what it keeps is a
live heartbeat, and it never goes back to none.  It makes a request only when
there is a limit and more than the limit has passed since it was started,
since each live heartbeat and since each earlier request.  Whoever comes for a
request is told whether one was made since somebody last came, so none is
handed over twice and none is lost.  Left to itself, the loop does what a
round of the monitor does.
-/
theorem requests_are_justified {spawned : Except String Unit} {context : ContextId}
    {endpoint : Endpoint} {options : SocketOptions} {limit : Option Duration}
    {monitor : HeartbeatMonitor} {s begun : σ}
    (started : HeartbeatMonitor.start fabric spawned context endpoint options limit s =
      (.ok monitor, begun))
    {moves : List (LookoutMove σ)} (forward : (begin fabric monitor begun).IsForward fabric moves) :
    let reached := (begin fabric monitor begun).run fabric moves
    let vigil := reached.monitor.vigil
    (∀ text, vigil.latest = some text → Heartbeat.isAlive text = true) ∧
      (vigil.latest.isSome = true → ∀ more,
        (reached.run fabric more).monitor.vigil.latest.isSome = true) ∧
      VigilEvent.AreDue limit reached.history ∧
      (limit = none → .taken true ∉ reached.history) ∧
      vigil.requested = VigilEvent.pending reached.history ∧
      reached.history.countP VigilEvent.isDelivery ≤
        reached.history.countP VigilEvent.isRaise ∧
      (reached.station = .listening → reached.monitor.running = true →
        ∃ after, Proceeds fabric (reached.proceed fabric) after ∧ after.station = .listening ∧
          (after.monitor, after.surroundings) =
            reached.monitor.watch fabric reached.surroundings) := by
  intro reached vigil
  have sound : reached.IsSound fabric limit := (begin_isSound started).run forward
  have bound := sound.areDue.countP_isDelivery_le
  refine ⟨sound.latest_alive, fun kept more => isSome_latest_run more kept, sound.areDue, ?_,
    sound.requested_eq, by omega, Proceeds.watch reached⟩
  rintro rfl
  exact sound.areDue.not_delivered.2

namespace SilentSession

def started : Except SessionError HeartbeatMonitor × Network :=
  HeartbeatMonitor.start Network.fabric (.ok ()) ⟨0⟩ ⟨"localhost", 7110⟩ {} (some (.ofMillis 100)) {}

def heartbeat : String :=
  "\x7b\"status\":\"active\"\x7d"

/-- One heartbeat, then silence; somebody comes just before the request is made, and twice after. -/
def moves (begun : Network) : List (LookoutMove Network) :=
  .meanwhile (begun.deliver ⟨⟨1⟩, heartbeat.toUTF8, []⟩ ⟨0⟩) :: List.replicate 8 .proceed ++
    [.take, .proceed, .take, .proceed, .take]

/-- Whether the monitor was started, the clock goes on, and one of three that come is served. -/
def servesOnce : Except SessionError HeartbeatMonitor × Network → Bool
  | (.ok monitor, begun) =>
      let begin := begin Network.fabric monitor begun
      decide (begin.IsForward Network.fabric (moves begun)) &&
        ((begin.run Network.fabric (moves begun)).history.map VigilEvent.isDelivery ==
          [false, true, false, false, false, false])
  | (.error _, _) => false

end SilentSession

open SilentSession in
/-- The request of a session that fell silent is handed over once. -/
theorem requests_are_justified_in_silence :
    ∃ monitor begun,
      HeartbeatMonitor.start Network.fabric (.ok ()) ⟨0⟩ ⟨"localhost", 7110⟩ {}
          (some (.ofMillis 100)) {} = (.ok monitor, begun) ∧
        (begin Network.fabric monitor begun).IsForward Network.fabric (moves begun) ∧
        let reached := (begin Network.fabric monitor begun).run Network.fabric (moves begun)
        reached.history.map VigilEvent.isDelivery = [false, true, false, false, false, false] ∧
          VigilEvent.AreDue (some (.ofMillis 100)) reached.history := by
  have once : servesOnce started = true := by decide +kernel
  cases outcome : started with
  | mk result begun =>
      cases result with
      | error error =>
          rw [outcome] at once
          cases once
      | ok monitor =>
          rw [outcome] at once
          obtain ⟨forward, delivered⟩ := Bool.and_eq_true_iff.mp once
          have forward := of_decide_eq_true forward
          exact ⟨monitor, begun, outcome, forward, eq_of_beq delivered,
            (requests_are_justified outcome forward).2.2.1⟩

end Lookout

end TaskLink
