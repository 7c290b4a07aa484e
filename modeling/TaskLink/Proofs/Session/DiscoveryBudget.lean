import Mathlib.Algebra.GroupWithZero.Nat
import TaskLink.Proofs.Session.DiscoveryTrace

/-!
# How much discovery asks for

A source that is asked again and again with the same wait gives a row of
answers.  Discovery asks for as many of them as it takes to find one that is
not idle, and for no more than the policy allows; if all of them are idle, what
it waited for is the budget of the policy.
-/

namespace TaskLink

namespace SourceEvent

/-- The wait of a fetch in nanoseconds, and no time for anything else. -/
def waitNanos : SourceEvent → Nat
  | .answered wait _ => wait.nanos
  | _ => 0

end SourceEvent

namespace HeartbeatSource

variable {σ τ : Type}

/-! ## The row of answers -/

def before (source : HeartbeatSource σ τ) (wait : Duration) (opened : τ) : Nat → τ
  | 0 => opened
  | fetches + 1 =>
      let reached := source.before wait opened fetches
      source.pace wait (source.clock reached) (source.fetch wait reached).2

def after (source : HeartbeatSource σ τ) (wait : Duration) (opened : τ) (fetch : Nat) : τ :=
  (source.fetch wait (source.before wait opened fetch)).2

def answer (source : HeartbeatSource σ τ) (wait : Duration) (opened : τ) (fetch : Nat) :
    Except SessionError (Option String) :=
  (source.fetch wait (source.before wait opened fetch)).1

def asked (source : HeartbeatSource σ τ) (wait : Duration) (opened : τ) (fetches : Nat) :
    List SourceEvent :=
  (List.range fetches).map fun fetch => .answered wait (source.answer wait opened fetch)

def consulted (source : HeartbeatSource σ τ) (wait : Duration) (opened : τ) (fetches : Nat) :
    Noted τ :=
  ⟨source.before wait opened fetches, source.asked wait opened fetches⟩

def decided (source : HeartbeatSource σ τ) (wait : Duration) (opened : τ) (fetch : Nat) :
    Noted τ :=
  ⟨source.after wait opened fetch, source.asked wait opened (fetch + 1)⟩

variable (source : HeartbeatSource σ τ) (wait : Duration)

theorem fetch_before (opened : τ) (fetch : Nat) :
    source.fetch wait (source.before wait opened fetch) =
      (source.answer wait opened fetch, source.after wait opened fetch) :=
  rfl

theorem asked_succ (opened : τ) (fetches : Nat) :
    source.asked wait opened (fetches + 1) =
      source.asked wait opened fetches ++ [.answered wait (source.answer wait opened fetches)] := by
  simp [asked, List.range_succ]

theorem fetch_consulted (opened : τ) (fetch : Nat) :
    source.noting.fetch wait (source.consulted wait opened fetch) =
      (source.answer wait opened fetch, source.decided wait opened fetch) := by
  rw [decided, asked_succ]
  exact noting_fetch (source.fetch_before wait opened fetch)

/-- The record is kept beside the source, and changes nothing about it. -/
theorem before_noting (opened : τ) (fetches : Nat) :
    source.noting.before wait ⟨opened, []⟩ fetches = source.consulted wait opened fetches := by
  induction fetches with
  | zero => rfl
  | succ fetches ih =>
      rw [before, ih, fetch_consulted, noting_pace]
      rfl

theorem answer_noting (opened : τ) (fetch : Nat) :
    source.noting.answer wait ⟨opened, []⟩ fetch = source.answer wait opened fetch := by
  rw [answer, before_noting, fetch_consulted]

theorem waitNanos_asked (opened : τ) (fetches : Nat) :
    ((source.asked wait opened fetches).map SourceEvent.waitNanos).sum =
      fetches * wait.nanos := by
  induction fetches with
  | zero => simp [asked]
  | succ fetches ih =>
      rw [asked_succ, List.map_append, List.sum_append, ih, Nat.succ_mul]
      simp [SourceEvent.waitNanos]

/-! ## Pacing -/

/-- The clock of a source never goes back, and a sleep lasts at least as long as it is to. -/
structure KeepsPace (source : HeartbeatSource σ τ) : Prop where
  fetched : ∀ wait opened, source.clock opened ≤ source.clock (source.fetch wait opened).2
  slept : ∀ span opened, source.clock opened + span.nanos ≤ source.clock (source.sleep span opened)

/-- An attempt that is paced lasts for the wait at least. -/
theorem KeepsPace.pace {source : HeartbeatSource σ τ} (keeps : source.KeepsPace) (wait : Duration)
    {opened : τ} {started : Nat} (begun : started ≤ source.clock opened) :
    started + wait.nanos ≤ source.clock (source.pace wait started opened) := by
  unfold HeartbeatSource.pace
  dsimp only
  split
  · next early =>
      have slept := keeps.slept (.ofNanos (wait.nanos - (source.clock opened - started))) opened
      have fits := wait.nanos_lt
      have whole : wait.nanos - (source.clock opened - started) ≤
          UInt64.size * nanosPerSec - 1 := by omega
      rw [Duration.nanos_ofNanos] at slept
      rw [show Nat.min _ _ = _ from Nat.min_eq_left whole] at slept
      omega
  · omega

/-- A number of fetches that decide nothing last for as many waits at least. -/
theorem KeepsPace.before {source : HeartbeatSource σ τ} (keeps : source.KeepsPace)
    (wait : Duration) (opened : τ) (fetches : Nat) :
    source.clock opened + fetches * wait.nanos ≤
      source.clock (source.before wait opened fetches) := by
  induction fetches with
  | zero => simp [HeartbeatSource.before]
  | succ fetches ih =>
      have paced := keeps.pace wait (keeps.fetched wait (source.before wait opened fetches))
      calc source.clock opened + (fetches + 1) * wait.nanos
          = source.clock opened + fetches * wait.nanos + wait.nanos := by
            rw [Nat.succ_mul, Nat.add_assoc]
        _ ≤ source.clock (source.before wait opened fetches) + wait.nanos :=
            Nat.add_le_add_right ih _
        _ ≤ source.clock (source.before wait opened (fetches + 1)) := paced

theorem keepsPace_script (endpoint : String) (openError : Option SessionError) :
    (HeartbeatScript.source endpoint openError).KeepsPace where
  fetched wait script := by
    change script.clock ≤ (HeartbeatScript.fetch wait script).2.clock
    unfold HeartbeatScript.fetch
    dsimp only
    split <;> exact Nat.le_refl _
  slept _ _ := Nat.le_refl _

/-! ## The budget -/

theorem discoverWithin_of_all_idle {opened : τ} {fetches : Nat}
    (idle : ∀ fetch < fetches, IsIdle (source.answer wait opened fetch)) (attempts : Nat) :
    source.discoverWithin wait (attempts + fetches) opened =
      source.discoverWithin wait attempts (source.before wait opened fetches) := by
  induction fetches generalizing attempts with
  | zero => rfl
  | succ fetches ih =>
      have passed := ih (fun fetch earlier => idle fetch (Nat.lt_succ_of_lt earlier)) (attempts + 1)
      rw [Nat.add_right_comm] at passed
      rw [← Nat.add_assoc, passed]
      exact discoverWithin_of_idle (source.fetch_before wait opened fetches)
        (idle fetches (Nat.lt_succ_self fetches)) attempts

theorem discoverWithin_noting_of_all_idle {opened : τ} {fetches : Nat}
    (idle : ∀ fetch < fetches, IsIdle (source.answer wait opened fetch)) (attempts : Nat) :
    source.noting.discoverWithin wait (attempts + fetches) ⟨opened, []⟩ =
      source.noting.discoverWithin wait attempts (source.consulted wait opened fetches) := by
  rw [← before_noting]
  apply discoverWithin_of_all_idle
  intro fetch earlier
  rw [answer_noting]
  exact idle fetch earlier

/-- The first fetch that is not idle gets its turn if it is within the attempts. -/
theorem discover_noting_of_all_idle (policy : DiscoveryPolicy) {opened : τ} {fetch : Nat}
    (allowed : fetch < policy.attempts)
    (idle : ∀ earlier < fetch, IsIdle (source.answer policy.retryInterval opened earlier)) :
    ∃ more, source.noting.discover policy ⟨opened, []⟩ =
      source.noting.discoverWithin policy.retryInterval (more + 1)
        (source.consulted policy.retryInterval opened fetch) := by
  obtain ⟨more, attempts⟩ := Nat.exists_eq_add_of_lt allowed
  have sum : policy.attempts = more + 1 + fetch := by omega
  refine ⟨more, ?_⟩
  rw [discover, sum]
  exact source.discoverWithin_noting_of_all_idle policy.retryInterval idle (more + 1)

theorem discover_noting (policy : DiscoveryPolicy) (opened : τ) :
    (source.noting.discover policy ⟨opened, []⟩).1 = (source.discover policy opened).1 ∧
      (source.noting.discover policy ⟨opened, []⟩).2.around = (source.discover policy opened).2 := by
  obtain ⟨answers, same, -⟩ :=
    source.discoverWithin_noting policy.retryInterval policy.attempts ⟨opened, []⟩
  rw [discover, same]
  exact ⟨rfl, rfl⟩

/--
Discovery stops at the first fetch within the policy that brings a heartbeat or
an error, and returns it; if there is none it fetches as often as the policy
allows, at least once, and names the endpoint.  Every fetch is given the
interval of the policy, so a vain discovery waits for the budget.
-/
theorem discovery_spends_its_budget (source : HeartbeatSource σ τ) (maxAttempts : UInt32)
    (wait : Duration) (opened : τ) :
    ((source.noting.discover ⟨maxAttempts, wait⟩ ⟨opened, []⟩).1 =
        (source.discover ⟨maxAttempts, wait⟩ opened).1 ∧
      (source.noting.discover ⟨maxAttempts, wait⟩ ⟨opened, []⟩).2.around =
        (source.discover ⟨maxAttempts, wait⟩ opened).2) ∧
    (∀ fetch < max 1 maxAttempts.toNat,
      (∀ earlier < fetch, IsIdle (source.answer wait opened earlier)) →
        (∀ heartbeat, source.answer wait opened fetch = .ok (some heartbeat) → heartbeat ≠ "" →
          source.noting.discover ⟨maxAttempts, wait⟩ ⟨opened, []⟩ =
            (.ok heartbeat, source.decided wait opened fetch)) ∧
        (∀ error, source.answer wait opened fetch = .error error →
          source.noting.discover ⟨maxAttempts, wait⟩ ⟨opened, []⟩ =
            (.error error, source.decided wait opened fetch))) ∧
    ((∀ fetch < max 1 maxAttempts.toNat, IsIdle (source.answer wait opened fetch)) →
      source.noting.discover ⟨maxAttempts, wait⟩ ⟨opened, []⟩ =
        (.error (.noHeartbeat source.endpoint),
          source.consulted wait opened (max 1 maxAttempts.toNat))) ∧
    (∀ fetches, (source.consulted wait opened fetches).events =
      (List.range fetches).map fun fetch => .answered wait (source.answer wait opened fetch)) ∧
    (∀ fetch, (source.decided wait opened fetch).events =
      (source.consulted wait opened (fetch + 1)).events) ∧
    (max 1 maxAttempts.toNat * wait.nanos < UInt64.size * nanosPerSec →
      ((source.consulted wait opened (max 1 maxAttempts.toNat)).events.map
        SourceEvent.waitNanos).sum = (DiscoveryPolicy.mk maxAttempts wait).budget.nanos) := by
  refine ⟨source.discover_noting ⟨maxAttempts, wait⟩ opened, fun fetch allowed idle => ?_,
    fun idle => ?_, fun _ => rfl, fun _ => rfl, fun representable => ?_⟩
  · obtain ⟨more, passed⟩ :=
      source.discover_noting_of_all_idle ⟨maxAttempts, wait⟩ allowed idle
    have fetched := source.fetch_consulted wait opened fetch
    constructor
    · intro heartbeat found notEmpty
      rw [found] at fetched
      exact passed.trans (discoverWithin_of_heartbeat fetched notEmpty more)
    · intro error failed
      rw [failed] at fetched
      exact passed.trans (discoverWithin_of_error fetched more)
  · have passed := source.discoverWithin_noting_of_all_idle wait idle 0
    rw [Nat.zero_add] at passed
    exact passed
  · have whole : max 1 maxAttempts.toNat * wait.nanos ≤ UInt64.size * nanosPerSec - 1 :=
      Nat.le_sub_one_of_lt representable
    rw [consulted, waitNanos_asked, DiscoveryPolicy.budget, Duration.times, Duration.nanos_ofNanos,
      Nat.mul_comm wait.nanos]
    exact (Nat.min_eq_left whole).symm

/-! ### Scripts -/

section Scripts

variable (endpoint : String) (openError : Option SessionError) (wait : Duration)

theorem answers_pace_script (started : Nat) (script : HeartbeatScript) :
    ((HeartbeatScript.source endpoint openError).pace wait started script).answers =
      script.answers := by
  unfold pace
  dsimp only [HeartbeatScript.source]
  split <;> rfl

theorem answers_before_script (script : HeartbeatScript) (fetches : Nat) :
    ((HeartbeatScript.source endpoint openError).before wait script fetches).answers =
      script.answers.drop fetches := by
  induction fetches with
  | zero => rfl
  | succ fetches ih =>
      rw [before, answers_pace_script, ← List.tail_drop, ← ih]
      dsimp only [HeartbeatScript.source, HeartbeatScript.fetch]
      split
      · next none_left => rw [none_left]; rfl
      · next one_left => rw [one_left]; rfl

/-- A script gives its answers in their order, whatever time passes between them. -/
theorem answer_script (script : HeartbeatScript) (fetch : Nat) :
    (HeartbeatScript.source endpoint openError).answer wait script fetch =
      (script.answers[fetch]?).getD (.ok none) := by
  rw [← List.head?_drop, ← answers_before_script endpoint openError wait]
  unfold answer
  dsimp only [HeartbeatScript.source, HeartbeatScript.fetch]
  split
  · next none_left => rw [none_left]; rfl
  · next one_left => rw [one_left]; rfl

end Scripts

/-- A script that says nothing, then an empty heartbeat, then a heartbeat at the last attempt. -/
def lateScript : HeartbeatScript :=
  { answers := [.ok none, .ok (some ""), .ok (some "up")] }

/-- Three attempts get to the heartbeat, two end in silence after the whole budget. -/
theorem discovery_spends_its_budget_on_late_heartbeat :
    let source := HeartbeatScript.source "tcp://scripted:1" none
    source.noting.discover ⟨3, .ofMillis 100⟩ ⟨lateScript, []⟩ =
        (.ok "up", source.decided (.ofMillis 100) lateScript 2) ∧
      source.noting.discover ⟨2, .ofMillis 100⟩ ⟨lateScript, []⟩ =
        (.error (.noHeartbeat "tcp://scripted:1"), source.consulted (.ofMillis 100) lateScript 2) ∧
      ((source.consulted (.ofMillis 100) lateScript 2).events.map SourceEvent.waitNanos).sum =
        200000000 := by
  intro source
  have idle : ∀ earlier < 2, IsIdle (source.answer (.ofMillis 100) lateScript earlier) := by
    intro earlier early
    rw [answer_script]
    obtain rfl | rfl : earlier = 0 ∨ earlier = 1 := by omega
    · exact Or.inl rfl
    · exact Or.inr rfl
  obtain ⟨-, decides, -⟩ := discovery_spends_its_budget source 3 (.ofMillis 100) lateScript
  obtain ⟨-, -, silent, -, -, spends⟩ := discovery_spends_its_budget source 2 (.ofMillis 100) lateScript
  have isUp := answer_script "tcp://scripted:1" none (.ofMillis 100) lateScript 2
  refine ⟨(decides 2 (by decide) idle).1 "up" isUp (by decide), silent idle, ?_⟩
  exact (spends (by decide)).trans (by decide)

end HeartbeatSource

end TaskLink
