import TaskLink.Proofs.Session.DiscoveryTrace
import TaskLink.Session.TaskSession

/-!
# Sessions have an identity

A session is bound to an identity with both parts known.  A part that the
caller left out is what the first heartbeat announces; a source is opened only
if a part was left out, and then once.
-/

namespace TaskLink

namespace SessionIdentity

/-! ## What a heartbeat completes -/

def IsKnown (identity : SessionIdentity) : Prop :=
  identity.sceneKey ≠ "" ∧ identity.slaveRequestId ≠ ""

theorem isComplete_iff (identity : SessionIdentity) :
    identity.isComplete = true ↔ identity.IsKnown := by
  simp [isComplete, IsKnown]

/-- A known identity that keeps what was supplied and takes the rest from a heartbeat. -/
structure Completes (supplied : SessionIdentity) (heartbeat : String)
    (identity : SessionIdentity) : Prop where
  isKnown : identity.IsKnown
  sceneKey_kept : supplied.sceneKey ≠ "" → identity.sceneKey = supplied.sceneKey
  sceneKey_found : supplied.sceneKey = "" → identity.sceneKey = Heartbeat.sceneKey heartbeat
  slaveRequestId_kept :
    supplied.slaveRequestId ≠ "" → identity.slaveRequestId = supplied.slaveRequestId
  slaveRequestId_found :
    supplied.slaveRequestId = "" → identity.slaveRequestId = Heartbeat.slaveRequestId heartbeat

def LacksScene (supplied : SessionIdentity) (heartbeat : String) : Prop :=
  supplied.sceneKey = "" ∧ Heartbeat.sceneKey heartbeat = ""

def LacksRequestId (supplied : SessionIdentity) (heartbeat : String) : Prop :=
  supplied.slaveRequestId = "" ∧ Heartbeat.slaveRequestId heartbeat = ""

/-- The parts that were neither supplied nor announced, in words. -/
inductive Lacks (supplied : SessionIdentity) (heartbeat : String) : String → Prop where
  | sceneKey (scene : supplied.LacksScene heartbeat)
      (requestId : ¬supplied.LacksRequestId heartbeat) :
      Lacks supplied heartbeat "scene primary key"
  | slaveRequestId (scene : ¬supplied.LacksScene heartbeat)
      (requestId : supplied.LacksRequestId heartbeat) :
      Lacks supplied heartbeat "slave request id"
  | both (scene : supplied.LacksScene heartbeat) (requestId : supplied.LacksRequestId heartbeat) :
      Lacks supplied heartbeat "scene primary key and slave request id"

theorem fill_sceneKey_eq_empty_iff (supplied : SessionIdentity) (heartbeat : String) :
    (supplied.fill heartbeat).sceneKey = "" ↔ supplied.LacksScene heartbeat := by
  unfold fill LacksScene
  by_cases empty : supplied.sceneKey = "" <;> simp [empty]

theorem fill_slaveRequestId_eq_empty_iff (supplied : SessionIdentity) (heartbeat : String) :
    (supplied.fill heartbeat).slaveRequestId = "" ↔ supplied.LacksRequestId heartbeat := by
  unfold fill LacksRequestId
  by_cases empty : supplied.slaveRequestId = "" <;> simp [empty]

theorem fill_completes {supplied : SessionIdentity} {heartbeat : String}
    (isKnown : (supplied.fill heartbeat).IsKnown) :
    supplied.Completes heartbeat (supplied.fill heartbeat) where
  isKnown := isKnown
  sceneKey_kept supplied := by simp [fill, supplied]
  sceneKey_found missing := by simp [fill, missing]
  slaveRequestId_kept supplied := by simp [fill, supplied]
  slaveRequestId_found missing := by simp [fill, missing]

/-- The complaint about a filled identity names what is lacking. -/
theorem lacks_missing {supplied : SessionIdentity} {heartbeat : String}
    (unknown : ¬(supplied.fill heartbeat).IsKnown) :
    supplied.Lacks heartbeat (supplied.fill heartbeat).missing := by
  have scene := supplied.fill_sceneKey_eq_empty_iff heartbeat
  have requestId := supplied.fill_slaveRequestId_eq_empty_iff heartbeat
  generalize supplied.fill heartbeat = filled at *
  by_cases noScene : supplied.LacksScene heartbeat <;>
    by_cases noRequestId : supplied.LacksRequestId heartbeat
  · have named : filled.missing = "scene primary key and slave request id" := by
      rw [missing, scene.mpr noScene, requestId.mpr noRequestId]
      rfl
    rw [named]
    exact .both noScene noRequestId
  · have isNamed : filled.slaveRequestId.isEmpty = false :=
      String.isEmpty_eq_false_iff.mpr (mt requestId.mp noRequestId)
    have named : filled.missing = "scene primary key" := by
      rw [missing, scene.mpr noScene, isNamed]
      rfl
    rw [named]
    exact .sceneKey noScene noRequestId
  · have isNamed : filled.sceneKey.isEmpty = false :=
      String.isEmpty_eq_false_iff.mpr (mt scene.mp noScene)
    have named : filled.missing = "slave request id" := by
      rw [missing, requestId.mpr noRequestId, isNamed]
      rfl
    rw [named]
    exact .slaveRequestId noScene noRequestId
  · exact absurd ⟨noScene ∘ scene.mp, noRequestId ∘ requestId.mp⟩ unknown

/-! ## What resolving comes to -/

def consultation (policy : DiscoveryPolicy) (answers : List (Except SessionError (Option String))) :
    List SourceEvent :=
  .opened :: answers.map (.answered policy.retryInterval) ++ [.closed]

/--
What resolving an identity comes to, by what the source did.  The source is
left alone exactly if both parts were supplied.
-/
inductive Resolves (supplied : SessionIdentity) (policy : DiscoveryPolicy) (endpoint : String) :
    List SourceEvent → Except SessionError SessionIdentity → Prop where
  /-- Both parts were supplied. -/
  | known (isKnown : supplied.IsKnown) : Resolves supplied policy endpoint [] (.ok supplied)
  /-- The source could not be opened. -/
  | refused {error : SessionError} (unknown : ¬supplied.IsKnown) :
      Resolves supplied policy endpoint [.refused error] (.error error)
  /-- A fetch failed, or no heartbeat came within the budget. -/
  | undiscovered {answers : List (Except SessionError (Option String))} {error : SessionError}
      (unknown : ¬supplied.IsKnown)
      (discovers : HeartbeatSource.Discovers endpoint policy.attempts answers (.error error)) :
      Resolves supplied policy endpoint (consultation policy answers) (.error error)
  /-- The first heartbeat announces what was left out. -/
  | completed {answers : List (Except SessionError (Option String))} {heartbeat : String}
      {identity : SessionIdentity} (unknown : ¬supplied.IsKnown)
      (discovers : HeartbeatSource.Discovers endpoint policy.attempts answers (.ok heartbeat))
      (completes : supplied.Completes heartbeat identity) :
      Resolves supplied policy endpoint (consultation policy answers) (.ok identity)
  /-- The first heartbeat does not announce all that was left out. -/
  | lacking {answers : List (Except SessionError (Option String))} {heartbeat missing : String}
      (unknown : ¬supplied.IsKnown)
      (discovers : HeartbeatSource.Discovers endpoint policy.attempts answers (.ok heartbeat))
      (lacks : supplied.Lacks heartbeat missing) :
      Resolves supplied policy endpoint (consultation policy answers)
        (.error (.incompleteIdentity endpoint missing))

namespace Resolves

variable {supplied identity : SessionIdentity} {policy : DiscoveryPolicy} {endpoint : String}
  {events : List SourceEvent} {result : Except SessionError SessionIdentity}

/-- A source is opened once if a part was left out, and else never. -/
theorem openings (resolves : supplied.Resolves policy endpoint events result) :
    events.countP SourceEvent.isOpening = if supplied.isComplete then 0 else 1 := by
  have once (answers : List (Except SessionError (Option String))) :
      (consultation policy answers).countP SourceEvent.isOpening = 1 := by
    rw [consultation, List.cons_append, List.countP_cons, List.countP_append,
      SourceEvent.countP_isOpening_answered]
    rfl
  cases resolves with
  | known isKnown =>
      rw [(isComplete_iff supplied).mpr isKnown]
      rfl
  | refused unknown =>
      rw [if_neg (mt (isComplete_iff supplied).mp unknown)]
      rfl
  | undiscovered unknown | completed unknown | lacking unknown =>
      rw [if_neg (mt (isComplete_iff supplied).mp unknown)]
      exact once _

theorem isKnown (resolves : supplied.Resolves policy endpoint events (.ok identity)) :
    identity.IsKnown := by
  cases resolves with
  | known isKnown => exact isKnown
  | completed unknown discovers completes => exact completes.isKnown

end Resolves

theorem completeFrom_resolves {supplied : SessionIdentity} {policy : DiscoveryPolicy}
    {endpoint heartbeat : String} {answers : List (Except SessionError (Option String))}
    (unknown : ¬supplied.IsKnown)
    (discovers : HeartbeatSource.Discovers endpoint policy.attempts answers (.ok heartbeat)) :
    supplied.Resolves policy endpoint (consultation policy answers)
      (supplied.completeFrom endpoint heartbeat) := by
  unfold completeFrom
  dsimp only
  split
  · next complete =>
      exact .completed unknown discovers
        (fill_completes ((isComplete_iff _).mp complete))
  · next incomplete =>
      exact .lacking unknown discovers (lacks_missing (mt (isComplete_iff _).mpr incomplete))

variable {σ τ : Type}

/-- Resolving with a record is resolving, and the record tells what it comes to. -/
theorem resolve_noting (supplied : SessionIdentity) (policy : DiscoveryPolicy)
    (source : HeartbeatSource σ τ) (s : σ) :
    ∃ events,
      supplied.resolve policy source.noting ⟨s, []⟩ =
          ((supplied.resolve policy source s).1, ⟨(supplied.resolve policy source s).2, events⟩) ∧
        supplied.Resolves policy source.endpoint events (supplied.resolve policy source s).1 := by
  unfold resolve
  by_cases complete : supplied.isComplete = true
  · rw [if_pos complete, if_pos complete]
    exact ⟨[], rfl, .known ((isComplete_iff supplied).mp complete)⟩
  · have unknown := mt (isComplete_iff supplied).mpr complete
    rw [if_neg complete, if_neg complete]
    cases opening : source.openSource s with
    | error refusal =>
        obtain ⟨error, around⟩ := refusal
        rw [HeartbeatSource.noting_openSource_of_error opening]
        exact ⟨[.refused error], rfl, .refused unknown⟩
    | ok opened =>
        obtain ⟨answers, same, discovers⟩ :=
          source.discoverWithin_noting policy.retryInterval policy.attempts ⟨opened, [.opened]⟩
        rw [HeartbeatSource.noting_openSource_of_ok opening]
        unfold HeartbeatSource.discover
        dsimp only
        rw [List.nil_append, same]
        refine ⟨consultation policy answers, ?_⟩
        cases found : source.discoverWithin policy.retryInterval policy.attempts opened with
        | mk result closing =>
            rw [found] at discovers
            cases result with
            | error error => exact ⟨rfl, .undiscovered unknown discovers⟩
            | ok heartbeat => exact ⟨rfl, completeFrom_resolves unknown discovers⟩

theorem isKnown_of_resolve {supplied identity : SessionIdentity} {policy : DiscoveryPolicy}
    {source : HeartbeatSource σ τ} {s : σ}
    (resolved : (supplied.resolve policy source s).1 = .ok identity) : identity.IsKnown := by
  obtain ⟨events, -, resolves⟩ := supplied.resolve_noting policy source s
  rw [resolved] at resolves
  exact resolves.isKnown

end SessionIdentity

/-! ## Sessions -/

/-- A success of a retried operation is a success of the operation. -/
theorem retryWithin_ok {σ α : Type} {operation : σ → Except SessionError α × σ}
    {pause : Duration → σ → σ} {fuel : Nat} {strategy : Backoff} {state : σ} {value : α}
    {after : Backoff × σ}
    (returned : retryWithin operation pause fuel strategy state = some (.ok value, after)) :
    ∃ state, (operation state).1 = .ok value := by
  induction fuel generalizing strategy state with
  | zero => cases returned
  | succ fuel ih =>
      rw [retryWithin] at returned
      split at returned
      · next found next operated =>
          cases returned
          exact ⟨state, by rw [operated]⟩
      · next error next operated =>
          split at returned
          · split at returned
            · exact ih returned
            · cases returned
          · cases returned

namespace TaskSession

variable {σ : Type} {fabric : Fabric σ} {options : SessionOptions} {session : TaskSession σ} {s : σ}

/-- A session is bound to the identity that it was given. -/
theorem bind_identity {identity : SessionIdentity} {context : ContextId}
    (bound : (bind fabric options identity context s).1 = .ok session) :
    session.identity = identity := by
  unfold bind at bound
  split at bound
  · cases bound
  · split at bound <;> cases bound
    rfl

theorem bootstrapOn_isKnown {context : ContextId}
    (reached : (bootstrapOn fabric context options s).1 = .ok session) :
    session.identity.IsKnown := by
  unfold bootstrapOn at reached
  split at reached
  · cases reached
  · dsimp only at reached
    split at reached
    · cases reached
    · next identity after resolved =>
        rw [bind_identity reached]
        exact SessionIdentity.isKnown_of_resolve (congrArg Prod.fst resolved)

theorem bootstrap_isKnown (reached : (bootstrap fabric options s).1 = .ok session) :
    session.identity.IsKnown :=
  bootstrapOn_isKnown reached

theorem bootstrapFrom_isKnown {ρ τ : Type} {source : HeartbeatSource ρ τ} {around : ρ}
    (reached : (bootstrapFrom fabric source options around s).1 = .ok session) :
    session.identity.IsKnown := by
  unfold bootstrapFrom at reached
  split at reached
  · cases reached
  · split at reached
    · cases reached
    · next identity after resolved =>
        rw [bind_identity reached]
        exact SessionIdentity.isKnown_of_resolve (congrArg Prod.fst resolved)

theorem connectWithRetry_isKnown {fuel : Nat} {strategy : Backoff} {after : Backoff × σ}
    (reached : connectWithRetry fabric fuel options strategy s = some (.ok session, after)) :
    session.identity.IsKnown := by
  obtain ⟨state, bootstrapped⟩ := retryWithin_ok reached
  exact bootstrap_isKnown bootstrapped

end TaskSession

/--
Resolving returns what was supplied if both parts were, without opening the
source; otherwise it opens the source once, and completes what was supplied
from the first heartbeat, or says what went wrong or is still lacking.  So no
session, however it was reached, has an identity with an empty part.
-/
theorem SessionIdentity.bound_only_if_known :
    (∀ {σ τ : Type} (source : HeartbeatSource σ τ) (supplied : SessionIdentity)
        (policy : DiscoveryPolicy) (s : σ),
      ∃ events,
        supplied.resolve policy source.noting ⟨s, []⟩ =
            ((supplied.resolve policy source s).1,
              ⟨(supplied.resolve policy source s).2, events⟩) ∧
          supplied.Resolves policy source.endpoint events (supplied.resolve policy source s).1 ∧
          events.countP SourceEvent.isOpening = if supplied.isComplete then 0 else 1) ∧
      ∀ {σ : Type} (fabric : Fabric σ) (options : SessionOptions) (s : σ)
        (session : TaskSession σ),
        ((TaskSession.bootstrap fabric options s).1 = .ok session → session.identity.IsKnown) ∧
          (∀ context, (TaskSession.bootstrapOn fabric context options s).1 = .ok session →
            session.identity.IsKnown) ∧
          (∀ {ρ τ : Type} (source : HeartbeatSource ρ τ) (around : ρ),
            (TaskSession.bootstrapFrom fabric source options around s).1 = .ok session →
              session.identity.IsKnown) ∧
          ∀ fuel strategy after,
            TaskSession.connectWithRetry fabric fuel options strategy s =
                some (.ok session, after) →
              session.identity.IsKnown := by
  constructor
  · intro σ τ source supplied policy s
    obtain ⟨events, same, resolves⟩ := supplied.resolve_noting policy source s
    exact ⟨events, same, resolves, resolves.openings⟩
  · intro σ fabric options s session
    exact ⟨TaskSession.bootstrap_isKnown, fun _ => TaskSession.bootstrapOn_isKnown,
      fun _ _ => TaskSession.bootstrapFrom_isKnown,
      fun _ _ _ => TaskSession.connectWithRetry_isKnown⟩

end TaskLink
