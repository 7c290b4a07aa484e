import TaskLink.Proofs.Messaging.SentMessages
import TaskLink.Proofs.Session.IdentityResolution

/-!
# What a session sends

To reach a session nothing is sent, wherever its identity comes from.  A
command of a session that no monitor watches sends its envelope once at most,
and to close the session nothing is sent either.
-/

namespace TaskLink

open Tapped (Sends)

/-! ## Sources -/

namespace HeartbeatSource

variable {σ τ α : Type} {source : HeartbeatSource σ τ} {outside : σ → α} {inside : τ → α}

/-- Whatever a source does, something about the surroundings stays the same. -/
structure Keeps (source : HeartbeatSource σ τ) (outside : σ → α) (inside : τ → α) : Prop where
  opened : ∀ {s opened}, source.openSource s = .ok opened → inside opened = outside s
  refused : ∀ {s error after},
    source.openSource s = .error (error, after) → outside after = outside s
  fetched : ∀ wait opened, inside (source.fetch wait opened).2 = inside opened
  closed : ∀ opened, outside (source.closeSource opened) = inside opened
  slept : ∀ span opened, inside (source.sleep span opened) = inside opened

theorem Keeps.pace (keeps : source.Keeps outside inside) (wait : Duration) (started : Nat)
    (opened : τ) : inside (source.pace wait started opened) = inside opened := by
  unfold HeartbeatSource.pace
  dsimp only
  split
  · exact keeps.slept _ opened
  · rfl

theorem Keeps.discoverWithin (keeps : source.Keeps outside inside) (wait : Duration)
    (attempts : Nat) (opened : τ) :
    inside (source.discoverWithin wait attempts opened).2 = inside opened := by
  induction attempts generalizing opened with
  | zero => rfl
  | succ attempts ih =>
      have kept := keeps.fetched wait opened
      rw [HeartbeatSource.discoverWithin]
      generalize source.fetch wait opened = fetched at kept ⊢
      obtain ⟨answer, after⟩ := fetched
      cases answer with
      | error error => exact kept
      | ok found =>
          cases found with
          | none => exact (ih _).trans ((keeps.pace wait _ after).trans kept)
          | some heartbeat =>
              dsimp only
              split
              · exact (ih _).trans ((keeps.pace wait _ after).trans kept)
              · exact kept

theorem Keeps.resolve (keeps : source.Keeps outside inside) (supplied : SessionIdentity)
    (policy : DiscoveryPolicy) (s : σ) :
    outside (supplied.resolve policy source s).2 = outside s := by
  unfold SessionIdentity.resolve
  split
  · rfl
  · cases opening : source.openSource s with
    | error refusal => exact keeps.refused opening
    | ok opened =>
        have kept := (keeps.discoverWithin policy.retryInterval policy.attempts opened).trans
          (keeps.opened opening)
        unfold discover
        dsimp only
        generalize source.discoverWithin policy.retryInterval policy.attempts opened = found
          at kept ⊢
        obtain ⟨result, after⟩ := found
        cases result <;> exact (keeps.closed after).trans kept

/-- A source finds a heartbeat when it is opened and asked as a policy says. -/
def Finds (source : HeartbeatSource σ τ) (policy : DiscoveryPolicy) (s : σ) (heartbeat : String) :
    Prop :=
  ∃ opened after,
    source.openSource s = .ok opened ∧ source.discover policy opened = (.ok heartbeat, after)

end HeartbeatSource

theorem subscribedHeartbeats_keeps {σ : Type} (base : Fabric σ) (context : ContextId)
    (settings : ClientSettings) :
    (subscribedHeartbeats base.tapping context settings).Keeps Tapped.sent
      fun opened => opened.2.sent where
  opened {s opened} opening := by
    unfold subscribedHeartbeats at opening
    dsimp only at opening
    split at opening
    · cases opening
    · next subscriber created =>
        have established := subscriber.lifecycle.establish_sent base s (some context)
        split at opening <;> cases opening
        next isEstablished =>
          rw [isEstablished] at established
          exact established
  refused {s error after} opening := by
    unfold subscribedHeartbeats at opening
    dsimp only at opening
    split at opening
    · cases opening
      rfl
    · next subscriber created =>
        have established := subscriber.lifecycle.establish_sent base s (some context)
        split at opening <;> cases opening
        next isEstablished =>
          rw [isEstablished] at established
          exact established
  fetched wait opened := by
    obtain ⟨subscriber, s⟩ := opened
    have received := subscriber.receiveLatest_sent base (some wait) s
    unfold subscribedHeartbeats
    dsimp only
    generalize subscriber.receiveLatest base.tapping (some wait) s = latest at received ⊢
    obtain ⟨result, after⟩ := latest
    cases result <;> exact received
  closed opened := opened.1.lifecycle.destroy_sent base opened.2
  slept _ _ := rfl

/-! ## Identities -/

namespace SessionIdentity

variable {σ τ : Type}

/-- An identity that was supplied, or completed from the heartbeat that a source finds. -/
inductive Identifies (supplied : SessionIdentity) (policy : DiscoveryPolicy)
    (source : HeartbeatSource σ τ) (s : σ) : SessionIdentity → Prop where
  | supplied (isKnown : supplied.IsKnown) : Identifies supplied policy source s supplied
  | found {heartbeat : String} {identity : SessionIdentity} (unknown : ¬supplied.IsKnown)
      (finds : source.Finds policy s heartbeat)
      (completes : supplied.Completes heartbeat identity) :
      Identifies supplied policy source s identity

theorem Identifies.isKnown {supplied identity : SessionIdentity} {policy : DiscoveryPolicy}
    {source : HeartbeatSource σ τ} {s : σ}
    (identifies : supplied.Identifies policy source s identity) : identity.IsKnown := by
  cases identifies with
  | supplied isKnown => exact isKnown
  | found unknown finds completes => exact completes.isKnown

theorem resolve_identifies {supplied identity : SessionIdentity} {policy : DiscoveryPolicy}
    {source : HeartbeatSource σ τ} {s : σ}
    (resolved : (supplied.resolve policy source s).1 = .ok identity) :
    supplied.Identifies policy source s identity := by
  unfold resolve at resolved
  split at resolved
  · next complete =>
      cases resolved
      exact .supplied ((isComplete_iff supplied).mp complete)
  · next incomplete =>
      cases opening : source.openSource s with
      | error refusal =>
          rw [opening] at resolved
          cases resolved
      | ok opened =>
          rw [opening] at resolved
          dsimp only at resolved
          cases discovered : source.discover policy opened with
          | mk result after =>
              rw [discovered] at resolved
              cases result with
              | error error => cases resolved
              | ok heartbeat =>
                  simp only [completeFrom] at resolved
                  split at resolved
                  · next complete =>
                      cases resolved
                      have isKnown := (isComplete_iff _).mp complete
                      exact .found (mt (isComplete_iff supplied).mpr incomplete)
                        ⟨opened, after, opening, discovered⟩ (fill_completes isKnown)
                  · cases resolved

end SessionIdentity

/-! ## Sessions -/

namespace TaskSession

section Reaching

variable {σ : Type} {fabric : Fabric σ} {options : SessionOptions} {session : TaskSession σ} {s : σ}

/-- A session that was bound has its options, and is not watched yet. -/
theorem bind_options {identity : SessionIdentity} {context : ContextId}
    (bound : (bind fabric options identity context s).1 = .ok session) :
    session.options = options ∧ session.watcher = none := by
  unfold bind at bound
  split at bound
  · cases bound
  · split at bound <;> cases bound
    exact ⟨rfl, rfl⟩

/-- A session is reached with its options and an identity, and is not watched yet. -/
theorem bootstrap_reaches (reached : (bootstrap fabric options s).1 = .ok session) :
    session.options = options ∧ session.watcher = none ∧
      options.suppliedIdentity.Identifies options.discovery
        (subscribedHeartbeats fabric (fabric.newContext s).1 options.heartbeatSettings)
        (fabric.newContext s).2 session.identity := by
  unfold bootstrap bootstrapOn at reached
  dsimp only at reached
  split at reached
  · cases reached
  · split at reached
    · cases reached
    · next identity after resolved =>
        obtain ⟨same, unwatched⟩ := bind_options reached
        refine ⟨same, unwatched, ?_⟩
        rw [bind_identity reached]
        exact SessionIdentity.resolve_identifies (congrArg Prod.fst resolved)

end Reaching

variable {σ : Type} {base : Fabric σ} {watchers : Watchers (Tapped σ)}
  {session after : TaskSession (Tapped σ)} {s last : Tapped σ}

theorem bind_sent (options : SessionOptions) (identity : SessionIdentity) (context : ContextId)
    (s : Tapped σ) : (bind base.tapping options identity context s).2.sent = s.sent := by
  unfold bind
  cases (Requester.create options.clientSettings none none :
    Except LinkError (Requester (Tapped σ))) with
  | error error => rfl
  | ok client =>
      have established := client.lifecycle.establish_sent base s (some context)
      dsimp only
      generalize client.lifecycle.establish base.tapping (some context) s = opened at established ⊢
      obtain ⟨result, lifecycle, after⟩ := opened
      cases result <;> exact established

theorem bootstrap_sent (base : Fabric σ) (options : SessionOptions) (s : Tapped σ) :
    (bootstrap base.tapping options s).2.sent = s.sent := by
  unfold bootstrap bootstrapOn
  dsimp only
  split
  · rfl
  · have resolved := (subscribedHeartbeats_keeps base (base.tapping.newContext s).1
      options.heartbeatSettings).resolve options.suppliedIdentity options.discovery
      (base.tapping.newContext s).2
    split
    · next isResolved =>
        rw [isResolved] at resolved
        exact resolved
    · next isResolved =>
        rw [isResolved] at resolved
        exact (bind_sent options _ _ _).trans resolved

theorem renew_sent (session : TaskSession (Tapped σ)) (s : Tapped σ) :
    (session.renew base.tapping s).2.2.sent = s.sent := by
  have renewed := session.client.lifecycle.renew_sent base s
  unfold renew
  dsimp only
  generalize session.client.lifecycle.renew base.tapping s = opened at renewed ⊢
  obtain ⟨result, lifecycle, after⟩ := opened
  cases result <;> exact renewed

theorem renewAfter_sent (base : Fabric σ) (error : SessionError)
    (session : TaskSession (Tapped σ)) (s : Tapped σ) :
    (renewAfter base.tapping error session s).2.sent = s.sent := by
  unfold renewAfter
  split
  · exact renew_sent session s
  · rfl

structure IsBoundAs (session other : TaskSession σ) : Prop where
  identity : session.identity = other.identity
  watcher : session.watcher = other.watcher

theorem renewAfter_isBoundAs (fabric : Fabric σ) (error : SessionError) (session : TaskSession σ)
    (s : σ) : (renewAfter fabric error session s).1.IsBoundAs session := by
  unfold renewAfter renew
  split
  · dsimp only
    split <;> exact ⟨rfl, rfl⟩
  · exact ⟨rfl, rfl⟩

theorem transmit_sends {fuel : Nat} {command : String} {timeout : Option Duration}
    {outcome : Except SessionError String}
    (returned : transmit base.tapping session fuel command timeout 0 s =
      some (outcome, after, last)) :
    Sends command.toUTF8 s last ∧ after.IsBoundAs session := by
  unfold transmit at returned
  dsimp only at returned
  obtain ⟨⟨result, client, middle⟩, called, same⟩ := Option.map_eq_some_iff.mp returned
  have sends := Requester.call_sends rfl called
  cases checked : checkReply command result with
  | ok reply =>
      rw [checked] at same
      cases same
      exact ⟨sends, rfl, rfl⟩
  | error error =>
      rw [checked] at same
      dsimp only at same
      have sent := renewAfter_sent base error { session with client := client } middle
      have bound :=
        renewAfter_isBoundAs base.tapping error { session with client := client } middle
      generalize renewAfter base.tapping error { session with client := client } middle = renewed
        at same sent bound
      cases same
      exact ⟨sends.same sent, bound.identity, bound.watcher⟩

/-- A command of a session that is not watched sends its envelope once at most. -/
theorem execute_sends {fuel : Nat} {parameters : Json} {timeout : Option Duration}
    {outcome : Except SessionError Json} (unwatched : session.watcher = none)
    (returned : session.execute base.tapping watchers fuel parameters timeout s =
      some (outcome, after, last)) :
    Sends (session.commandEnvelope parameters).compact.toUTF8 s last ∧
      after.IsBoundAs session := by
  obtain ⟨⟨reply, session', s'⟩, executed, same⟩ := Option.map_eq_some_iff.mp returned
  cases same
  unfold executeRaw renewIfRequested at executed
  rw [unwatched] at executed
  exact transmit_sends executed

/-- To close a session that is not watched nothing is sent. -/
theorem close_sent (base : Fabric σ) (watchers : Watchers (Tapped σ))
    (unwatched : session.watcher = none) (s : Tapped σ) :
    (session.close base.tapping watchers s).sent = s.sent := by
  unfold close stopMonitor
  rw [unwatched]
  exact session.client.lifecycle.destroy_sent base s

end TaskSession

end TaskLink
