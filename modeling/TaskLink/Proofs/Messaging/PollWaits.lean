import TaskLink.Messaging.FramedRequester
import TaskLink.Messaging.Requester
import TaskLink.Messaging.Subscriber
import TaskLink.Proofs.Messaging.Timekeeping

/-!
# The waits of polls

A poll lasts whole milliseconds.  A wait is rounded up to them, but after its
parts of a microsecond were dropped: one that goes beyond a millisecond by less
than a microsecond is rounded down.  Whoever polls once for a wait, or for what
is left of it, may so give up early, by less than a microsecond.
-/

namespace TaskLink

/-! ## Rounding -/

def longestWait : Nat := longestPoll * nanosPerMilli

namespace Duration

/-- A number of milliseconds is a wait rounded up, or the longest poll if that many do not fit. -/
def IsRoundedUpTo (wait : Duration) (millis : Nat) : Prop :=
  (wait.nanos ≤ millis * nanosPerMilli ∧ millis * nanosPerMilli < wait.nanos + nanosPerMilli) ∨
    (millis = longestPoll ∧ longestWait < wait.nanos)

/-- What a wait is beyond its whole milliseconds is dropped, and a poll could last longer. -/
def IsCutShort (wait : Duration) : Prop :=
  0 < wait.nanos % nanosPerMilli ∧ wait.nanos % nanosPerMilli < nanosPerMicro ∧
    wait.millis < longestPoll

instance (wait : Duration) (millis : Nat) : Decidable (wait.IsRoundedUpTo millis) :=
  inferInstanceAs (Decidable (_ ∨ _))

instance (wait : Duration) : Decidable wait.IsCutShort :=
  inferInstanceAs (Decidable (_ ∧ _))

end Duration

section Rounding

variable {wait : Duration}

theorem pollMillis_eq (wait : Duration) :
    pollMillis wait = min ((wait.nanos / 1000 + 999) / 1000) 9223372036854775807 :=
  rfl

theorem pollMillis_of_isCutShort (cutShort : wait.IsCutShort) : pollMillis wait = wait.millis := by
  rw [pollMillis_eq]
  unfold Duration.IsCutShort Duration.millis nanosPerMilli nanosPerMicro longestPoll at *
  omega

theorem isRoundedUpTo_pollMillis_iff (wait : Duration) :
    wait.IsRoundedUpTo (pollMillis wait) ↔ ¬wait.IsCutShort := by
  rw [pollMillis_eq]
  unfold Duration.IsRoundedUpTo Duration.IsCutShort Duration.millis longestWait nanosPerMilli
    nanosPerMicro longestPoll
  omega

/-- A poll is too short by less than a microsecond. -/
theorem lt_pollMillis_add (wait : Duration) :
    min wait.nanos longestWait < pollMillis wait * nanosPerMilli + nanosPerMicro := by
  rw [pollMillis_eq]
  unfold longestWait nanosPerMilli nanosPerMicro longestPoll
  omega

/-- A poll for a wait that is not cut short lasts it, or as much of it as a poll can last. -/
theorem le_pollMillis (uncut : ¬wait.IsCutShort) :
    min wait.nanos longestWait ≤ pollMillis wait * nanosPerMilli := by
  rw [pollMillis_eq]
  unfold Duration.IsCutShort Duration.millis nanosPerMilli nanosPerMicro longestPoll at uncut
  unfold longestWait nanosPerMilli longestPoll
  omega

end Rounding

/-! ## One poll -/

section OnePoll

variable {σ : Type} (fabric : Fabric σ)

inductive FindsNothing (wait : Duration) (s after : σ) : Lifecycle → Prop where
  | request {server : Responder}
      (nothing : server.receive fabric (some wait) s = (.ok none, after)) :
      FindsNothing wait s after server.lifecycle
  | frames {server : Responder}
      (nothing : server.receiveFrames fabric (some wait) s = (.ok none, after)) :
      FindsNothing wait s after server.lifecycle
  | notice {server : Responder} (nothing : server.poll fabric wait s = (.ok false, after)) :
      FindsNothing wait s after server.lifecycle
  | message {subscriber : Subscriber}
      (nothing : subscriber.receive fabric (some wait) s = (.ok none, after)) :
      FindsNothing wait s after subscriber.lifecycle
  | newest {subscriber : Subscriber}
      (nothing : subscriber.receiveLatest fabric (some wait) s = (.ok none, after)) :
      FindsNothing wait s after subscriber.lifecycle

/-- The poll for a wait is interrupted, which counts as having found nothing. -/
def IsInterruptedPoll (wait : Duration) (s : σ) (lifecycle : Lifecycle) : Prop :=
  ∃ socket, lifecycle.socket = some socket ∧
    (fabric.poll socket .readable (.lasting wait) s).1 = .error .interrupted

/-- What was polled for has passed, whole milliseconds of it. -/
def IsPolledOut (wait : Duration) (s after : σ) : Prop :=
  fabric.clock s + pollMillis wait * nanosPerMilli ≤ fabric.clock after

variable {fabric} {wait : Duration} {s after : σ} {lifecycle : Lifecycle}

/-- What is used with success is the socket that is held. -/
theorem Lifecycle.receiving_eq_ok {α : Type} {use : SocketId → σ → Except SocketFault α × σ}
    {value : α} (received : lifecycle.receiving use s = (.ok value, after)) :
    ∃ socket, lifecycle.socket = some socket ∧ use socket s = (.ok value, after) := by
  unfold receiving live at received
  cases held : lifecycle.socket with
  | none =>
      rw [held] at received
      cases received
  | some socket =>
      rw [held] at received
      dsimp only at received
      refine ⟨socket, rfl, ?_⟩
      split at received
      · next isUsed =>
          cases received
          exact isUsed
      · cases received

theorem isPolledOut_of_poll (keeps : fabric.KeepsTime) {socket : SocketId} {readiness : Readiness}
    (nothing : fabric.poll socket readiness (.lasting wait) s = (.ok false, after)) :
    IsPolledOut fabric wait s after := by
  have whole : fabric.clock s + pollMillis wait * nanosPerMilli ≤
      fabric.clock (fabric.poll socket readiness (.lasting wait) s).2 :=
    keeps.lasts socket readiness (pollMillis wait) s (congrArg Prod.fst nothing)
  rwa [nothing] at whole

/-- To a server or a subscriber, an interrupted poll has found nothing as well. -/
theorem pollReadable_nothing (keeps : fabric.KeepsTime) {socket : SocketId}
    (nothing : fabric.pollReadable socket (.lasting wait) s = (.ok false, after)) :
    (fabric.poll socket .readable (.lasting wait) s).1 = .error .interrupted ∨
      IsPolledOut fabric wait s after := by
  unfold Fabric.pollReadable at nothing
  split at nothing
  · next interrupted =>
      left
      rw [interrupted]
  · exact .inr (isPolledOut_of_poll keeps nothing)

theorem poll_of_pollReadable {socket : SocketId} {wait : Wait}
    (ready : fabric.pollReadable socket wait s = (.ok true, after)) :
    fabric.poll socket .readable wait s = (.ok true, after) := by
  unfold Fabric.pollReadable at ready
  split at ready
  · cases ready
  · exact ready

/-- The same is so of a reading that finds nothing, since what a poll announces can be read. -/
theorem readWithin_nothing (keeps : fabric.KeepsTime) {socket : SocketId}
    (nothing : fabric.readWithin fabric.receiveFrames (some wait) socket s = (.ok none, after)) :
    (fabric.poll socket .readable (.lasting wait) s).1 = .error .interrupted ∨
      IsPolledOut fabric wait s after := by
  rw [Fabric.readWithin] at nothing
  dsimp only at nothing
  cases found : fabric.pollReadable socket (.lasting wait) s with
  | mk result middle =>
      rw [found] at nothing
      cases result with
      | error fault => cases nothing
      | ok isReady =>
          cases isReady with
          | false =>
              cases nothing
              exact pollReadable_nothing keeps found
          | true =>
              have polled := poll_of_pollReadable found
              have announced := keeps.announced socket (.lasting wait) s (congrArg Prod.fst polled)
              rw [polled] at announced
              dsimp only at nothing
              split at nothing
              · cases nothing
              · next blocked => exact absurd (congrArg Prod.fst blocked) announced
              · cases nothing

/-- What is read joined is nothing only if nothing is read frame by frame. -/
theorem readWithin_joined_nothing {socket : SocketId}
    (nothing : fabric.readWithin fabric.receiveJoined (some wait) socket s = (.ok none, after)) :
    fabric.readWithin fabric.receiveFrames (some wait) socket s = (.ok none, after) := by
  rw [fabric.readWithin_joined] at nothing
  generalize fabric.readWithin fabric.receiveFrames (some wait) socket s = read at nothing ⊢
  obtain ⟨result, last⟩ := read
  cases result with
  | error fault => cases nothing
  | ok found =>
      cases found with
      | none =>
          have ends : last = after := congrArg Prod.snd nothing
          rw [ends]
      | some message => cases nothing

theorem Subscriber.drain_ne_nothing (subscriber : Subscriber) (count : Nat) (latest : ByteArray) :
    subscriber.drain fabric count latest s ≠ (.ok none, after) := by
  induction count generalizing latest s with
  | zero => exact fun impossible => by cases impossible
  | succ count ih =>
      rw [drain]
      split
      · exact fun impossible => by cases impossible
      · exact fun impossible => by cases impossible
      · exact ih _

theorem Subscriber.receive_of_receiveLatest {subscriber : Subscriber}
    (nothing : subscriber.receiveLatest fabric (some wait) s = (.ok none, after)) :
    subscriber.receive fabric (some wait) s = (.ok none, after) := by
  unfold receiveLatest at nothing
  split at nothing
  · cases nothing
  · next isNothing =>
      cases nothing
      exact isNothing
  · exact absurd nothing (subscriber.drain_ne_nothing _ _)

/-- Whoever polls once and finds nothing was interrupted or has polled for all of the wait. -/
theorem FindsNothing.isPolledOut (keeps : fabric.KeepsTime)
    (findsNothing : FindsNothing fabric wait s after lifecycle) :
    IsInterruptedPoll fabric wait s lifecycle ∨ IsPolledOut fabric wait s after := by
  have joined {held : Lifecycle}
      (nothing : held.receiving (fabric.readWithin fabric.receiveJoined (some wait)) s =
        (.ok none, after)) :
      IsInterruptedPoll fabric wait s held ∨ IsPolledOut fabric wait s after := by
    obtain ⟨socket, isHeld, read⟩ := Lifecycle.receiving_eq_ok nothing
    exact (readWithin_nothing keeps (readWithin_joined_nothing read)).imp_left
      fun interrupted => ⟨socket, isHeld, interrupted⟩
  cases findsNothing with
  | request nothing => exact joined nothing
  | frames nothing =>
      obtain ⟨socket, isHeld, read⟩ := Lifecycle.receiving_eq_ok nothing
      exact (readWithin_nothing keeps read).imp_left fun interrupted =>
        ⟨socket, isHeld, interrupted⟩
  | notice nothing =>
      obtain ⟨socket, isHeld, polled⟩ := Lifecycle.receiving_eq_ok nothing
      exact (pollReadable_nothing keeps polled).imp_left fun interrupted =>
        ⟨socket, isHeld, interrupted⟩
  | message nothing => exact joined nothing
  | newest nothing => exact joined (Subscriber.receive_of_receiveLatest nothing)

end OnePoll

/-! ## Exchanges of frames -/

section Exchanges

variable {σ : Type} (fabric : Fabric σ)

inductive RunsOut (s after : σ) : Option Deadline → Prop where
  /-- The deadline had passed when the request was sent. -/
  | past {deadline : Deadline} (isPast : deadline.finish < fabric.clock after) :
      RunsOut s after (some deadline)
  /-- A poll for the time that was left found nothing. -/
  | polled {deadline : Deadline} {middle : σ} (since : fabric.clock s ≤ fabric.clock middle)
      (polledOut : IsPolledOut fabric (fabric.remaining deadline middle) middle after) :
      RunsOut s after (some deadline)
  /-- A poll without an end found nothing. -/
  | endless {socket : SocketId} {readiness : Readiness} {middle : σ}
      (ended : (fabric.poll socket readiness .forever middle).1 = .ok false) :
      RunsOut s after none

variable {fabric} {s middle after : σ} {deadline : Option Deadline}

/-- Time that runs out from a later moment on, or up to an earlier one, runs out. -/
theorem RunsOut.around {last : σ} (since : fabric.clock s ≤ fabric.clock middle)
    (upTo : fabric.clock after ≤ fabric.clock last)
    (runsOut : RunsOut fabric middle after deadline) : RunsOut fabric s last deadline := by
  cases runsOut with
  | past isPast => exact .past (Nat.lt_of_lt_of_le isPast upTo)
  | polled later polledOut => exact .polled (Nat.le_trans since later) (Nat.le_trans polledOut upTo)
  | endless ended => exact .endless ended

namespace FramedRequester

def waitUntil (fabric : Fabric σ) (deadline : Option Deadline) (s : σ) : Wait :=
  match deadline with
  | some deadline => .lasting (fabric.remaining deadline s)
  | none => .forever

/-- Waiting polls for what is left, and is over unless that was interrupted. -/
theorem awaitReady_polls (fabric : Fabric σ) (socket : SocketId) (readiness : Readiness)
    (deadline : Option Deadline) (fuel : Nat) (s : σ) :
    (∃ middle,
      fabric.poll socket readiness (waitUntil fabric deadline s) s =
          (.error .interrupted, middle) ∧
        awaitReady fabric socket readiness deadline (fuel + 1) s =
          awaitReady fabric socket readiness deadline fuel middle) ∨
      awaitReady fabric socket readiness deadline (fuel + 1) s =
        some (fabric.poll socket readiness (waitUntil fabric deadline s) s) := by
  generalize waiting : awaitReady fabric socket readiness deadline (fuel + 1) s = waited
  unfold awaitReady at waiting
  dsimp only at waiting
  split at waiting
  · next middle polled => exact .inl ⟨middle, polled, waiting.symm⟩
  · exact .inr waiting.symm

/-- A poll for what is left that finds nothing has used it up. -/
theorem runsOut_of_poll (keeps : fabric.KeepsTime) {socket : SocketId} {readiness : Readiness}
    (nothing : fabric.poll socket readiness (waitUntil fabric deadline s) s = (.ok false, after)) :
    RunsOut fabric s after deadline := by
  cases deadline with
  | none => exact .endless (congrArg Prod.fst nothing)
  | some deadline => exact .polled (Nat.le_refl _) (isPolledOut_of_poll keeps nothing)

/-- Waiting goes on, and ends without the socket being ready only if the time runs out. -/
theorem awaitReady_runsOut (keeps : fabric.KeepsTime) {socket : SocketId} {readiness : Readiness}
    {fuel : Nat} {result : Except SocketFault Bool}
    (returned : awaitReady fabric socket readiness deadline fuel s = some (result, after)) :
    fabric.clock s ≤ fabric.clock after ∧
      (result = .ok false → RunsOut fabric s after deadline) := by
  induction fuel generalizing s with
  | zero => cases returned
  | succ fuel ih =>
      have goesOn := keeps.polled socket readiness (waitUntil fabric deadline s) s
      rcases awaitReady_polls fabric socket readiness deadline fuel s with
        ⟨middle, interrupted, again⟩ | settled
      · -- The next poll is for what is left by then until the same deadline.
        rw [interrupted] at goesOn
        obtain ⟨later, runsOut⟩ := ih (again.symm.trans returned)
        exact ⟨Nat.le_trans goesOn later, fun isFalse =>
          (runsOut isFalse).around goesOn (Nat.le_refl _)⟩
      · have polled := Option.some.inj (settled.symm.trans returned)
        rw [polled] at goesOn
        refine ⟨goesOn, ?_⟩
        rintro rfl
        exact runsOut_of_poll keeps polled

theorem awaitFrames_runsOut (keeps : fabric.KeepsTime) {fuel : Nat} {timeout limit : Duration}
    {socket : SocketId} {phase : String}
    (returned : awaitFrames fabric fuel timeout deadline socket s =
      some (.error (.exchangeTimedOut phase limit), after)) :
    RunsOut fabric s after deadline := by
  unfold awaitFrames at returned
  split at returned
  · cases returned
  · cases returned
  · next waited =>
      cases returned
      exact (awaitReady_runsOut keeps waited).2 rfl
  · split at returned
    · cases returned
    · cases returned

theorem exchangeFrames_runsOut (keeps : fabric.KeepsTime) {fuel : Nat}
    {frames : List ByteArray} {timeout limit : Duration} {socket : SocketId} {phase : String}
    (returned : exchangeFrames fabric fuel frames timeout deadline socket s =
      some (.error (.exchangeTimedOut phase limit), after)) :
    RunsOut fabric s after deadline := by
  have sent := keeps.sendFrames socket frames s
  unfold exchangeFrames at returned
  split at returned
  · cases returned
  · next isSent =>
      rw [isSent] at sent
      split at returned
      · next past =>
          cases returned
          cases deadline with
          | none => cases past
          | some deadline => exact .past (of_decide_eq_true past)
      · exact (awaitFrames_runsOut keeps returned).around sent (Nat.le_refl _)

/-- A reply that was read is never taken for one that did not come in time. -/
theorem splitStatus_ne_timedOut (reply : List ByteArray) (phase : String) (limit : Duration) :
    splitStatus reply ≠ .error (.exchangeTimedOut phase limit) := by
  unfold splitStatus
  split
  · exact nofun
  · split
    · exact nofun
    · split
      · split <;> exact nofun
      · exact nofun

/-- What an exchange failed with stays, and replacing the socket does not turn the clock back. -/
theorem conclude_timedOut (keeps : fabric.KeepsTime) {held last : Lifecycle}
    {result : Except LinkError (List ByteArray)} {phase : String} {limit : Duration}
    (concluded : conclude fabric held s result =
      (.error (.exchangeTimedOut phase limit), last, after)) :
    result = .error (.exchangeTimedOut phase limit) ∧ fabric.clock s ≤ fabric.clock after := by
  cases result with
  | ok reply => exact absurd (congrArg Prod.fst concluded) (splitStatus_ne_timedOut reply _ _)
  | error error =>
      have isError := Except.error.inj (congrArg Prod.fst concluded)
      have isAfter : (conclude fabric held s (.error error)).2.2 = after :=
        congrArg (·.2.2) concluded
      refine ⟨congrArg Except.error isError, ?_⟩
      rw [← isAfter]
      exact keeps.recover _ s

theorem exchangeOver_runsOut (keeps : fabric.KeepsTime) {fuel : Nat} {frames : List ByteArray}
    {timeout limit : Duration} {socket : SocketId} {held last : Lifecycle} {phase : String}
    (returned : exchangeOver fabric fuel frames timeout socket held s =
      some (.error (.exchangeTimedOut phase limit), last, after)) :
    RunsOut fabric s after (fabric.deadline timeout s) := by
  unfold exchangeOver at returned
  dsimp only at returned
  split at returned
  · cases returned
  · cases returned
  · next waited =>
      cases returned
      exact (awaitReady_runsOut keeps waited).2 rfl
  · next middle waited =>
      have ready := (awaitReady_runsOut keeps waited).1
      obtain ⟨⟨result, finished⟩, exchanged, concluded⟩ := Option.map_eq_some_iff.mp returned
      obtain ⟨rfl, later⟩ := conclude_timedOut keeps concluded
      exact (exchangeFrames_runsOut keeps exchanged).around ready later

/-- An exchange that is given up has run out of time. -/
theorem exchange_runsOut (keeps : fabric.KeepsTime) {client last : FramedRequester} {fuel : Nat}
    {frames : List ByteArray} {timeout limit : Duration} {phase : String}
    (returned : client.exchange fabric fuel frames timeout s =
      some (.error (.exchangeTimedOut phase limit), last, after)) :
    RunsOut fabric s after (fabric.deadline timeout s) := by
  unfold exchange at returned
  split at returned
  · cases returned
  · split at returned
    · next unavailable =>
        cases returned
        unfold Lifecycle.live at unavailable
        split at unavailable <;> cases unavailable
    · obtain ⟨⟨result, held, finished⟩, exchanged, isResult⟩ := Option.map_eq_some_iff.mp returned
      cases isResult
      exact exchangeOver_runsOut keeps exchanged

end FramedRequester

end Exchanges

/-! ## How early a wait may end -/

section Waits

variable {σ : Type} {fabric : Fabric σ} {wait : Duration} {s after : σ}

/--
As much of a wait as a poll can last has passed but for less than a
microsecond, and all of that if there is no excuse.
-/
structure WaitsOut (fabric : Fabric σ) (wait : Duration) (excuse : Prop) (s after : σ) :
    Prop where
  nearly : fabric.clock s + min wait.nanos longestWait < fabric.clock after + nanosPerMicro
  wholly : ¬excuse → fabric.clock s + min wait.nanos longestWait ≤ fabric.clock after

theorem IsPolledOut.waitsOut (polledOut : IsPolledOut fabric wait s after) :
    WaitsOut fabric wait wait.IsCutShort s after := by
  unfold IsPolledOut at polledOut
  have nearly := lt_pollMillis_add wait
  exact ⟨by omega, fun uncut => by have := le_pollMillis uncut; omega⟩

/-- What is left until a deadline that could be represented. -/
theorem nanos_remaining {deadline : Deadline} (isDeadline : fabric.deadline wait s = some deadline)
    (middle : σ) :
    deadline.finish = fabric.clock s + wait.nanos ∧
      (fabric.remaining deadline middle).nanos = deadline.finish - fabric.clock middle := by
  unfold Fabric.deadline at isDeadline
  dsimp only at isDeadline
  split at isDeadline
  · next representable =>
      cases isDeadline
      refine ⟨rfl, ?_⟩
      -- What is left is clipped to the longest duration, which no deadline leaves.
      rw [Fabric.remaining, Duration.nanos_ofNanos]
      refine Nat.min_eq_left ?_
      have longer : 9223372036854775808 * nanosPerSec ≤ UInt64.size * nanosPerSec - 1 := by decide
      dsimp only
      omega
  · cases isDeadline

/-- An exchange that polls for what is left may end early if that is cut short. -/
theorem RunsOut.waitsOut {deadline : Deadline}
    (isDeadline : fabric.deadline wait s = some deadline)
    (runsOut : RunsOut fabric s after (some deadline)) :
    WaitsOut fabric wait
      (∃ middle, fabric.clock s ≤ fabric.clock middle ∧
        (fabric.remaining deadline middle).IsCutShort) s after := by
  obtain ⟨finish, -⟩ := nanos_remaining isDeadline s
  have short : min wait.nanos longestWait ≤ wait.nanos := Nat.min_le_left _ _
  cases runsOut with
  | past isPast => exact ⟨by omega, fun _ => by omega⟩
  | @polled _ middle since polledOut =>
      obtain ⟨-, remaining⟩ := nanos_remaining isDeadline middle
      obtain ⟨nearly, wholly⟩ := polledOut.waitsOut
      rw [remaining] at nearly wholly
      refine ⟨by omega, fun uncut => ?_⟩
      have all := wholly fun cutShort => uncut ⟨middle, since, cutShort⟩
      omega

end Waits

/--
The milliseconds of a poll are its wait rounded up, or the longest poll if they
do not fit, exactly if the wait is not cut short, and else they are rounded
down.  So whoever polls once and finds nothing has waited as long as asked, or
as long as a poll can last, unless the poll was interrupted or the wait cut
short, and that takes less than a microsecond off.  The same holds for an
exchange of frames and the time that is left at its last poll, however often
it was interrupted; one with no representable deadline polls without an end.
-/
theorem waits_end_early_only_if_cut_short {σ : Type} {fabric : Fabric σ}
    (keeps : fabric.KeepsTime) :
    (∀ wait : Duration,
      (wait.IsRoundedUpTo (pollMillis wait) ↔ ¬wait.IsCutShort) ∧
        (wait.IsCutShort → pollMillis wait = wait.millis)) ∧
    (∀ {wait : Duration} {s after : σ} {lifecycle : Lifecycle},
      FindsNothing fabric wait s after lifecycle →
        IsInterruptedPoll fabric wait s lifecycle ∨
          WaitsOut fabric wait wait.IsCutShort s after) ∧
    ∀ {client last : FramedRequester} {fuel : Nat} {frames : List ByteArray}
      {timeout limit : Duration} {phase : String} {s after : σ},
      client.exchange fabric fuel frames timeout s =
          some (.error (.exchangeTimedOut phase limit), last, after) →
        match fabric.deadline timeout s with
        | some deadline =>
            WaitsOut fabric timeout
              (∃ middle, fabric.clock s ≤ fabric.clock middle ∧
                (fabric.remaining deadline middle).IsCutShort) s after
        | none =>
            ∃ socket readiness middle,
              (fabric.poll socket readiness .forever middle).1 = .ok false := by
  refine ⟨fun wait => ⟨isRoundedUpTo_pollMillis_iff wait, pollMillis_of_isCutShort⟩,
    fun findsNothing => (findsNothing.isPolledOut keeps).imp_right IsPolledOut.waitsOut, ?_⟩
  intro client last fuel frames timeout limit phase s after returned
  have runsOut := FramedRequester.exchange_runsOut keeps returned
  split
  · next deadline isDeadline =>
      rw [isDeadline] at runsOut
      exact runsOut.waitsOut isDeadline
  · next unlimited =>
      rw [unlimited] at runsOut
      cases runsOut with
      | endless ended => exact ⟨_, _, _, ended⟩

namespace IdleStage

def started (role : SocketRole) : Except LinkError SocketId × Lifecycle × Stage :=
  Lifecycle.start Stage.fabric { role := role, endpoint := ⟨"localhost", 5555⟩ } {}

def wait : Duration :=
  .ofNanos 2000500

def received : Except LinkError (Option ByteArray) × Stage :=
  Responder.receive Stage.fabric ⟨(started .responder).2.1⟩ (some wait) (started .responder).2.2

def exchanged : Option (Except LinkError (List ByteArray) × FramedRequester × Stage) :=
  FramedRequester.exchange Stage.fabric ⟨(started .requester).2.1⟩ 1 [⟨#[1]⟩] wait
    (started .requester).2.2

end IdleStage

open IdleStage in
/-- A server finds nothing, and an exchange is given up, after the wait but for a microsecond. -/
theorem waits_end_early_only_if_cut_short_on_idle_stage :
    Stage.fabric.KeepsTime ∧ received.1 = .ok none ∧ wait.IsCutShort ∧
      WaitsOut Stage.fabric wait wait.IsCutShort (started .responder).2.2 received.2 ∧
      ∃ phase limit client after,
        exchanged = some (.error (.exchangeTimedOut phase limit), client, after) ∧
          Stage.fabric.clock (started .requester).2.2 + min wait.nanos longestWait <
            Stage.fabric.clock after + nanosPerMicro := by
  obtain ⟨-, polls, exchanges⟩ := waits_end_early_only_if_cut_short Stage.keepsTime
  have nothing : received.1 = .ok none := rfl
  have findsNothing : FindsNothing Stage.fabric wait (started .responder).2.2 received.2
      (started .responder).2.1 :=
    .request (Prod.ext nothing rfl)
  refine ⟨Stage.keepsTime, nothing, by decide, (polls findsNothing).resolve_left ?_, ?_⟩
  · rintro ⟨socket, isHeld, interrupted⟩
    cases isHeld
    have uninterrupted : (Stage.fabric.poll ⟨0⟩ .readable (.lasting wait)
        (started .responder).2.2).1 = .ok false := rfl
    cases uninterrupted.symm.trans interrupted
  · have isTimedOut : exchanged.map (·.1) =
        some (.error (.exchangeTimedOut "receive response" wait)) := rfl
    obtain ⟨⟨result, client, after⟩, returned, rfl⟩ := Option.map_eq_some_iff.mp isTimedOut
    have waitsOut := exchanges returned
    have isDeadline : Stage.fabric.deadline wait (started .requester).2.2 =
        some ⟨wait, 2000500⟩ := rfl
    rw [isDeadline] at waitsOut
    exact ⟨_, _, client, after, returned, waitsOut.nearly⟩

/-- Surroundings that are nothing but a clock: nothing arrives, and only waits take time. -/
def Fabric.silent : Fabric Nat where
  newContext clock := (⟨0⟩, clock)
  openSocket _ _ _ _ clock := (.ok ⟨0⟩, clock)
  closeSocket _ clock := clock
  send _ _ _ clock := (.ok (), clock)
  receive _ clock := (.error .wouldBlock, clock)
  poll _ _ wait clock := (.ok false, clock + Network.waitNanos wait)
  backlog _ _ := 0
  clock clock := clock
  sleep span clock := clock + span.nanos

theorem Fabric.silent_keepsTime : silent.KeepsTime where
  created clock := Nat.le_refl clock
  opened context role endpoint options clock := Nat.le_refl clock
  closed socket clock := Nat.le_refl clock
  sent socket frame more clock := Nat.le_refl clock
  received socket clock := Nat.le_refl clock
  polled socket readiness wait clock := Nat.le_add_right clock _
  lasts socket readiness count clock nothing := Nat.le_refl _
  announced socket wait clock impossible := by cases impossible

namespace RestlessCall

/-- A client that asks its source every nanosecond, amid its surroundings. -/
def started : Except LinkError SocketId × Lifecycle × Stage :=
  Lifecycle.start Stage.fabric { role := .requester, endpoint := ⟨"127.0.0.1", 20000⟩ }
    { interrupts := Roster.put {} 0 (.after 600 0) }

/-- The client; its source says yes when it is asked for the six-hundredth time. -/
def client : Requester Stage where
  settings := { endpoint := ⟨"127.0.0.1", 20000⟩, pollInterval := .ofNanos 1 }
  lifecycle := started.2.1
  preempt := some (Stage.ask 0)

def request : Call where
  message := "ping".toUTF8
  timeout := some (.ofMillis 500)
  bits := 1

def returned : Option (Except LinkError String × Requester Stage × Stage) :=
  client.call Stage.fabric 600 request started.2.2

end RestlessCall

open RestlessCall in
/--
A wait of a nanosecond is rounded down to none.  So a poll for it can find
nothing before any time has passed, and a call that polls every nanosecond asks
its source six hundred times within half a second.
-/
theorem nanosecond_is_not_waited_for :
    ¬(Duration.ofNanos 1).IsRoundedUpTo (pollMillis (.ofNanos 1)) ∧
      (Fabric.silent.KeepsTime ∧ ∃ server : Responder,
        server.receive Fabric.silent (some (.ofNanos 1)) 0 = (.ok none, 0)) ∧
      ∃ error after, returned = some (.error error, after) ∧ error.code = .userInterrupt := by
  have isGivenUp : returned.map (fun done =>
      match done.1 with
      | .ok _ => none
      | .error error => some error.code) = some (some .userInterrupt) := by
    decide +kernel
  obtain ⟨⟨result, after⟩, isReturned, isCode⟩ := Option.map_eq_some_iff.mp isGivenUp
  refine ⟨by decide, ⟨Fabric.silent_keepsTime,
    ⟨{ role := .responder, endpoint := .any 5555, socket := some ⟨0⟩ }⟩, rfl⟩, ?_⟩
  cases result with
  | ok reply => cases isCode
  | error error => exact ⟨error, after, isReturned, Option.some.inj isCode⟩

end TaskLink
