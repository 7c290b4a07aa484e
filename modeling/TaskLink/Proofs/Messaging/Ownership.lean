import TaskLink.Messaging.Lifecycle

/-!
# Ownership of sockets and contexts

Whatever is done to a lifecycle, and whichever openings fail, it holds at most
one live socket, closes the old one before it opens a new one, and knows whose
context it holds.  The order of openings and closings is read from a record
that the fabric keeps; the record changes nothing else.
-/

namespace TaskLink

/-! ## Operations -/

/-- What is done to a lifecycle from outside; stopping a role destroys its lifecycle. -/
inductive LifecycleOperation where
  | start
  | establish (context : Option ContextId)
  | renew
  | destroy
  deriving DecidableEq

namespace LifecycleOperation

variable {σ : Type} (fabric : Fabric σ)

def perform (operation : LifecycleOperation) (lifecycle : Lifecycle) (s : σ) :
    Except LinkError Unit × Lifecycle × σ :=
  let done : Except LinkError SocketId × Lifecycle × σ → Except LinkError Unit × Lifecycle × σ
    | (result, after) => (result.map fun _ => (), after)
  match operation with
  | .start => done (lifecycle.start fabric s)
  | .establish context => done (lifecycle.establish fabric context s)
  | .renew => done (lifecycle.renew fabric s)
  | .destroy => (.ok (), lifecycle.destroy fabric s)

def performAll (operations : List LifecycleOperation) (lifecycle : Lifecycle) (s : σ) :
    Lifecycle × σ :=
  operations.foldl (fun held operation => (operation.perform fabric held.1 held.2).2)
    (lifecycle, s)

end LifecycleOperation

/-! ## What operations are made of -/

namespace Lifecycle

variable {σ : Type} {fabric : Fabric σ}

/-- Closing empties the socket and touches nothing else of the lifecycle. -/
theorem close_fst (fabric : Fabric σ) (lifecycle : Lifecycle) (s : σ) :
    (lifecycle.close fabric s).1 = { lifecycle with socket := none } := by
  cases lifecycle with
  | mk role endpoint options shared context ownership socket journal => cases socket <;> rfl

/-- An opening is a success that changes socket and journal, or a failure that changes neither. -/
theorem openOn_cases (fabric : Fabric σ) (lifecycle : Lifecycle) (context : ContextId) (s : σ) :
    (∃ socket after,
      fabric.openSocket context lifecycle.role lifecycle.endpoint lifecycle.options s =
          (.ok socket, after) ∧
        lifecycle.openOn fabric context s =
          (.ok socket, { lifecycle.info lifecycle.openedLine with socket := some socket }, after)) ∨
    (∃ fault after,
      fabric.openSocket context lifecycle.role lifecycle.endpoint lifecycle.options s =
          (.error fault, after) ∧
        lifecycle.openOn fabric context s =
          (.error (lifecycle.openError fault), lifecycle, after)) := by
  cases opened :
      fabric.openSocket context lifecycle.role lifecycle.endpoint lifecycle.options s with
  | mk result after =>
      cases result with
      | ok socket => exact Or.inl ⟨socket, after, rfl, by rw [openOn, opened]⟩
      | error fault => exact Or.inr ⟨fault, after, rfl, by rw [openOn, opened]⟩

theorem openOn_context (lifecycle : Lifecycle) (context : ContextId) (s : σ) :
    (lifecycle.openOn fabric context s).2.1.context = lifecycle.context := by
  obtain ⟨socket, after, -, same⟩ | ⟨fault, after, -, same⟩ :=
    openOn_cases fabric lifecycle context s
  · rw [same]
    rfl
  · rw [same]

theorem openOn_ownership (lifecycle : Lifecycle) (context : ContextId) (s : σ) :
    (lifecycle.openOn fabric context s).2.1.ownership = lifecycle.ownership := by
  obtain ⟨socket, after, -, same⟩ | ⟨fault, after, -, same⟩ :=
    openOn_cases fabric lifecycle context s
  · rw [same]
    rfl
  · rw [same]

theorem openOn_socket_of_error {lifecycle : Lifecycle} {context : ContextId} {s : σ}
    {error : LinkError} (failed : (lifecycle.openOn fabric context s).1 = .error error) :
    (lifecycle.openOn fabric context s).2.1.socket = lifecycle.socket := by
  obtain ⟨socket, after, -, same⟩ | ⟨fault, after, -, same⟩ :=
    openOn_cases fabric lifecycle context s
  · rw [same] at failed
    cases failed
  · rw [same]

/-- Destroying empties the socket, and the context too if it is an own one. -/
theorem destroy_fst (fabric : Fabric σ) (lifecycle : Lifecycle) (s : σ) :
    (lifecycle.destroy fabric s).1 =
      { lifecycle with
        socket := none
        context := if lifecycle.ownership = .owned then none else lifecycle.context } := by
  have closed := close_fst fabric lifecycle s
  unfold destroy
  cases parts : lifecycle.close fabric s with
  | mk after s' =>
      rw [parts] at closed
      dsimp only at closed ⊢
      subst closed
      cases lifecycle.ownership <;> rfl

theorem destroy_snd (fabric : Fabric σ) (lifecycle : Lifecycle) (s : σ) :
    (lifecycle.destroy fabric s).2 = (lifecycle.close fabric s).2 := by
  unfold destroy
  dsimp only
  split <;> rfl

theorem establish_eq (lifecycle : Lifecycle) (context : Option ContextId) (s : σ) :
    lifecycle.establish fabric context s =
      match context with
      | some context =>
          openOn fabric { lifecycle with socket := none, context := some context,
                                         ownership := .borrowed }
            context (lifecycle.close fabric s).2
      | none =>
          match fabric.newContext (lifecycle.close fabric s).2 with
          | (context, s) =>
              openOn fabric { lifecycle with socket := none, context := some context,
                                             ownership := .owned } context s := by
  have emptied := destroy_fst fabric lifecycle s
  have after := destroy_snd fabric lifecycle s
  unfold establish
  cases destroyed : lifecycle.destroy fabric s with
  | mk first second =>
      rw [destroyed] at emptied after
      dsimp only at emptied after ⊢
      subst emptied after
      cases context <;> rfl

theorem renew_eq (lifecycle : Lifecycle) (s : σ) :
    lifecycle.renew fabric s =
      match lifecycle.context with
      | some context =>
          openOn fabric { lifecycle with socket := none } context (lifecycle.close fabric s).2
      | none =>
          match fabric.newContext (lifecycle.close fabric s).2 with
          | (context, s) =>
              openOn fabric { lifecycle with socket := none, context := some context,
                                             ownership := .owned } context s := by
  have emptied := close_fst fabric lifecycle s
  unfold renew
  cases closed : lifecycle.close fabric s with
  | mk first second =>
      rw [closed] at emptied
      dsimp only at emptied ⊢
      subst emptied
      cases lifecycle.context <;> rfl

theorem renew_of_context {lifecycle : Lifecycle} {context : ContextId}
    (held : lifecycle.context = some context) (s : σ) :
    lifecycle.renew fabric s =
      openOn fabric { lifecycle with socket := none } context (lifecycle.close fabric s).2 := by
  rw [renew_eq]
  split
  · next other same =>
      cases same.symm.trans held
      rfl
  · next empty => cases empty.symm.trans held

end Lifecycle

/-! ## What every operation keeps -/

/-- What is so of the held socket and the surroundings stays so, whatever a lifecycle asks for. -/
structure Fabric.Keeps {σ : Type} (fabric : Fabric σ) (role : SocketRole) (endpoint : Endpoint)
    (options : SocketOptions) (property : Option SocketId → σ → Prop) : Prop where
  closed : ∀ socket s, property (some socket) s → property none (fabric.closeSocket socket s)
  created : ∀ held s, property held s → property held (fabric.newContext s).2
  opened : ∀ context s, property none s →
    match fabric.openSocket context role endpoint options s with
    | (.ok socket, s) => property (some socket) s
    | (.error _, s) => property none s

namespace Lifecycle

variable {σ : Type} {fabric : Fabric σ} {role : SocketRole} {endpoint : Endpoint}
  {options : SocketOptions} {property : Option SocketId → σ → Prop}

def IsFor (lifecycle : Lifecycle) (role : SocketRole) (endpoint : Endpoint)
    (options : SocketOptions) : Prop :=
  lifecycle.role = role ∧ lifecycle.endpoint = endpoint ∧ lifecycle.options = options

/-- The property of a lifecycle's socket, and what the lifecycle is for. -/
def Has (property : Option SocketId → σ → Prop) (role : SocketRole) (endpoint : Endpoint)
    (options : SocketOptions) (held : Lifecycle × σ) : Prop :=
  held.1.IsFor role endpoint options ∧ property held.1.socket held.2

theorem close_keeps (keeps : fabric.Keeps role endpoint options property) {lifecycle : Lifecycle}
    {s : σ} (holds : property lifecycle.socket s) :
    property none (lifecycle.close fabric s).2 := by
  unfold close
  cases held : lifecycle.socket with
  | none => rwa [held] at holds
  | some socket =>
      rw [held] at holds
      exact keeps.closed socket s holds

theorem openOn_keeps (keeps : fabric.Keeps role endpoint options property) {lifecycle : Lifecycle}
    {s : σ} (isFor : lifecycle.IsFor role endpoint options) (empty : lifecycle.socket = none)
    (holds : property none s) (context : ContextId) :
    Has property role endpoint options (lifecycle.openOn fabric context s).2 := by
  have kept := keeps.opened context s holds
  obtain ⟨roleEq, endpointEq, optionsEq⟩ := isFor
  obtain ⟨socket, after, opening, same⟩ | ⟨fault, after, opening, same⟩ :=
    openOn_cases fabric lifecycle context s
  · rw [roleEq, endpointEq, optionsEq] at opening
    rw [opening] at kept
    rw [same]
    exact ⟨⟨roleEq, endpointEq, optionsEq⟩, kept⟩
  · rw [roleEq, endpointEq, optionsEq] at opening
    rw [opening] at kept
    rw [same]
    refine ⟨⟨roleEq, endpointEq, optionsEq⟩, ?_⟩
    rw [empty]
    exact kept

theorem establish_keeps (keeps : fabric.Keeps role endpoint options property)
    {lifecycle : Lifecycle} {s : σ}
    (has : Has property role endpoint options (lifecycle, s)) (context : Option ContextId) :
    Has property role endpoint options (lifecycle.establish fabric context s).2 := by
  have closed := close_keeps keeps has.2
  rw [establish_eq]
  cases context with
  | some context =>
      apply openOn_keeps keeps _ rfl closed
      exact has.1
  | none =>
      apply openOn_keeps keeps _ rfl (keeps.created none _ closed)
      exact has.1

theorem renew_keeps (keeps : fabric.Keeps role endpoint options property)
    {lifecycle : Lifecycle} {s : σ} (has : Has property role endpoint options (lifecycle, s)) :
    Has property role endpoint options (lifecycle.renew fabric s).2 := by
  have closed := close_keeps keeps has.2
  rw [renew_eq]
  cases lifecycle.context with
  | some context =>
      apply openOn_keeps keeps _ rfl closed
      exact has.1
  | none =>
      apply openOn_keeps keeps _ rfl (keeps.created none _ closed)
      exact has.1

theorem destroy_keeps (keeps : fabric.Keeps role endpoint options property)
    {lifecycle : Lifecycle} {s : σ} (has : Has property role endpoint options (lifecycle, s)) :
    Has property role endpoint options (lifecycle.destroy fabric s) := by
  have closed := close_keeps keeps has.2
  unfold Has
  rw [destroy_fst, destroy_snd]
  exact ⟨has.1, closed⟩

end Lifecycle

theorem LifecycleOperation.perform_keeps {σ : Type} {fabric : Fabric σ} {role : SocketRole}
    {endpoint : Endpoint} {options : SocketOptions} {property : Option SocketId → σ → Prop}
    (keeps : fabric.Keeps role endpoint options property) (operation : LifecycleOperation)
    {lifecycle : Lifecycle} {s : σ}
    (has : Lifecycle.Has property role endpoint options (lifecycle, s)) :
    Lifecycle.Has property role endpoint options (operation.perform fabric lifecycle s).2 := by
  cases operation with
  | start =>
      change Lifecycle.Has property role endpoint options (lifecycle.start fabric s).2
      unfold Lifecycle.start
      split
      · exact has
      · exact Lifecycle.establish_keeps keeps has lifecycle.shared
  | establish context => exact Lifecycle.establish_keeps keeps has context
  | renew => exact Lifecycle.renew_keeps keeps has
  | destroy => exact Lifecycle.destroy_keeps keeps has

/-! ## The record -/

inductive SocketEvent where
  | opened (socket : SocketId)
  | refused (fault : OpenFault)
  | closed (socket : SocketId)

namespace SocketEvent

/-- The sockets that are live after some events, of which the latest is the first. -/
def live : List SocketEvent → List SocketId
  | [] => []
  | .opened socket :: earlier => socket :: live earlier
  | .refused _ :: earlier => live earlier
  | .closed socket :: earlier => (live earlier).erase socket

/-- No socket was live when another was opened or refused, and only live ones were closed. -/
def InTurn : List SocketEvent → Prop
  | [] => True
  | .opened _ :: earlier | .refused _ :: earlier => live earlier = [] ∧ InTurn earlier
  | .closed socket :: earlier => socket ∈ live earlier ∧ InTurn earlier

theorem InTurn.suffix {moment events : List SocketEvent} (inTurn : InTurn events)
    (past : moment <:+ events) : InTurn moment := by
  induction events with
  | nil => rwa [List.suffix_nil.mp past]
  | cons event earlier ih =>
      rcases List.suffix_cons_iff.mp past with same | past
      · rwa [same]
      · refine ih ?_ past
        cases event <;> exact inTurn.2

theorem InTurn.live_length_le {events : List SocketEvent} (inTurn : InTurn events) :
    (live events).length ≤ 1 := by
  induction events with
  | nil => exact Nat.zero_le 1
  | cons event earlier ih =>
      cases event with
      | opened socket =>
          rw [live, inTurn.1]
          exact Nat.le_refl 1
      | refused fault => exact ih inTurn.2
      | closed socket => exact Nat.le_trans (List.length_erase_le) (ih inTurn.2)

end SocketEvent

/-- Surroundings with a record of openings and closings, the latest first. -/
structure Recorded (σ : Type) where
  surroundings : σ
  events : List SocketEvent := []

namespace Recorded

variable {σ : Type}

def through {α : Type} (operation : σ → α × σ) (s : Recorded σ) : α × Recorded σ :=
  match operation s.surroundings with
  | (value, surroundings) => (value, { s with surroundings := surroundings })

def forget {α β : Type} (done : α × β × Recorded σ) : α × β × σ :=
  (done.1, done.2.1, done.2.2.surroundings)

/-- The record tells of one live socket at most, which is the one that is held. -/
def Tells (held : Option SocketId) (s : Recorded σ) : Prop :=
  SocketEvent.live s.events = held.toList ∧ SocketEvent.InTurn s.events

end Recorded

namespace Fabric

variable {σ : Type}

def recording (fabric : Fabric σ) : Fabric (Recorded σ) where
  newContext := Recorded.through fabric.newContext
  openSocket context role endpoint options s :=
    match fabric.openSocket context role endpoint options s.surroundings with
    | (.ok socket, surroundings) => (.ok socket, ⟨surroundings, .opened socket :: s.events⟩)
    | (.error fault, surroundings) => (.error fault, ⟨surroundings, .refused fault :: s.events⟩)
  closeSocket socket s :=
    ⟨fabric.closeSocket socket s.surroundings, .closed socket :: s.events⟩
  send socket frame more := Recorded.through (fabric.send socket frame more)
  receive socket := Recorded.through (fabric.receive socket)
  poll socket readiness wait := Recorded.through (fabric.poll socket readiness wait)
  backlog socket s := fabric.backlog socket s.surroundings
  clock s := fabric.clock s.surroundings
  sleep span s := { s with surroundings := fabric.sleep span s.surroundings }

/-- Openings and closings keep the record in agreement with the socket that is held. -/
theorem recording_keeps (fabric : Fabric σ) (role : SocketRole) (endpoint : Endpoint)
    (options : SocketOptions) :
    fabric.recording.Keeps role endpoint options Recorded.Tells where
  closed socket s tells := by
    obtain ⟨live, inTurn⟩ := tells
    refine ⟨?_, ?_, inTurn⟩
    · change (SocketEvent.live s.events).erase socket = []
      rw [live]
      exact List.erase_cons_head socket []
    · rw [live]
      exact List.mem_singleton_self socket
  created held s tells := tells
  opened context s tells := by
    unfold recording
    dsimp only
    cases fabric.openSocket context role endpoint options s.surroundings with
    | mk result surroundings =>
        cases result with
        | ok socket => exact ⟨congrArg (List.cons socket) tells.1, tells⟩
        | error fault => exact ⟨tells.1, tells⟩

end Fabric

/-! ### The record changes nothing -/

namespace Lifecycle

variable {σ : Type} (fabric : Fabric σ)

theorem close_recording (lifecycle : Lifecycle) (s : Recorded σ) :
    (lifecycle.close fabric.recording s).2.surroundings =
      (lifecycle.close fabric s.surroundings).2 := by
  unfold close
  cases lifecycle.socket <;> rfl

theorem openOn_recording (lifecycle : Lifecycle) (context : ContextId) (s : Recorded σ) :
    Recorded.forget (lifecycle.openOn fabric.recording context s) =
      lifecycle.openOn fabric context s.surroundings := by
  unfold openOn Fabric.recording
  dsimp only
  cases fabric.openSocket context lifecycle.role lifecycle.endpoint lifecycle.options
      s.surroundings with
  | mk result surroundings => cases result <;> rfl

theorem establish_recording (lifecycle : Lifecycle) (context : Option ContextId)
    (s : Recorded σ) :
    Recorded.forget (lifecycle.establish fabric.recording context s) =
      lifecycle.establish fabric context s.surroundings := by
  rw [establish_eq, establish_eq, ← close_recording]
  cases context with
  | some context => exact openOn_recording fabric _ context _
  | none => exact openOn_recording fabric _ _ _

theorem renew_recording (lifecycle : Lifecycle) (s : Recorded σ) :
    Recorded.forget (lifecycle.renew fabric.recording s) =
      lifecycle.renew fabric s.surroundings := by
  rw [renew_eq, renew_eq, ← close_recording]
  cases lifecycle.context with
  | some context => exact openOn_recording fabric _ context _
  | none => exact openOn_recording fabric _ _ _

theorem start_recording (lifecycle : Lifecycle) (s : Recorded σ) :
    Recorded.forget (lifecycle.start fabric.recording s) =
      lifecycle.start fabric s.surroundings := by
  unfold start
  split
  · rfl
  · exact establish_recording fabric lifecycle lifecycle.shared s

theorem destroy_recording (lifecycle : Lifecycle) (s : Recorded σ) :
    ((lifecycle.destroy fabric.recording s).1,
        (lifecycle.destroy fabric.recording s).2.surroundings) =
      lifecycle.destroy fabric s.surroundings := by
  apply Prod.ext
  · exact (destroy_fst fabric.recording lifecycle s).trans
      (destroy_fst fabric lifecycle s.surroundings).symm
  · dsimp only
    rw [destroy_snd, destroy_snd, close_recording]

end Lifecycle

theorem LifecycleOperation.perform_recording {σ : Type} (fabric : Fabric σ)
    (operation : LifecycleOperation) (lifecycle : Lifecycle) (s : Recorded σ) :
    Recorded.forget (operation.perform fabric.recording lifecycle s) =
      operation.perform fabric lifecycle s.surroundings := by
  have mapped {done : Except LinkError SocketId × Lifecycle × Recorded σ}
      {plain : Except LinkError SocketId × Lifecycle × σ}
      (same : Recorded.forget done = plain) :
      Recorded.forget (done.1.map fun _ => (), done.2) = (plain.1.map fun _ => (), plain.2) := by
    rw [← same]
    rfl
  cases operation with
  | start => exact mapped (Lifecycle.start_recording fabric lifecycle s)
  | establish context => exact mapped (Lifecycle.establish_recording fabric lifecycle context s)
  | renew => exact mapped (Lifecycle.renew_recording fabric lifecycle s)
  | destroy => exact congrArg (Prod.mk _) (Lifecycle.destroy_recording fabric lifecycle s)

/-! ## Whose context is held -/

/-- The context that the latest initialization was given; a start that opens is one. -/
def LifecycleOperation.lender (lifecycle : Lifecycle) (earlier : Option ContextId) :
    LifecycleOperation → Option ContextId
  | .start => if lifecycle.isLive then earlier else lifecycle.shared
  | .establish context => context
  | .renew | .destroy => earlier

namespace Lifecycle

/-- What is held, if `lender` is the context that the latest initialization was given. -/
structure Borrows (lifecycle : Lifecycle) (lender : Option ContextId) : Prop where
  context_of_live : lifecycle.socket.isSome → lifecycle.context.isSome
  borrowed_iff : lifecycle.ownership = .borrowed ↔ lender.isSome
  context_of_lender : ∀ context, lender = some context → lifecycle.context = some context

variable {σ : Type} {fabric : Fabric σ}

theorem establish_borrows (lifecycle : Lifecycle) (context : Option ContextId) (s : σ) :
    (lifecycle.establish fabric context s).2.1.Borrows context := by
  rw [establish_eq]
  cases context with
  | some context =>
      dsimp only
      refine ⟨fun _ => ?_, ?_, fun lent same => ?_⟩
      · rw [openOn_context]
        rfl
      · rw [openOn_ownership]
        exact ⟨fun _ => rfl, fun _ => rfl⟩
      · rw [openOn_context]
        exact same
  | none =>
      dsimp only
      refine ⟨fun _ => ?_, ?_, by rintro lent ⟨⟩⟩
      · rw [openOn_context]
        rfl
      · rw [openOn_ownership]
        exact ⟨by rintro ⟨⟩, by rintro ⟨⟩⟩

theorem renew_borrows (fabric : Fabric σ) {lifecycle : Lifecycle} {lender : Option ContextId}
    (borrows : lifecycle.Borrows lender) (s : σ) :
    (lifecycle.renew fabric s).2.1.Borrows lender := by
  rw [renew_eq]
  cases held : lifecycle.context with
  | some context =>
      dsimp only
      refine ⟨fun _ => ?_, ?_, fun lent same => ?_⟩
      · rw [openOn_context]
        rfl
      · rw [openOn_ownership]
        exact borrows.borrowed_iff
      · rw [openOn_context]
        exact held.symm.trans (borrows.context_of_lender lent same)
  | none =>
      -- A lender's context is held for ever, so nobody lent one.
      have unlent : lender = none := by
        cases lender with
        | none => rfl
        | some lent => cases held.symm.trans (borrows.context_of_lender lent rfl)
      subst unlent
      dsimp only
      refine ⟨fun _ => ?_, ?_, by rintro lent ⟨⟩⟩
      · rw [openOn_context]
        rfl
      · rw [openOn_ownership]
        exact ⟨by rintro ⟨⟩, by rintro ⟨⟩⟩

theorem destroy_borrows {lifecycle : Lifecycle} {lender : Option ContextId}
    (borrows : lifecycle.Borrows lender) (s : σ) :
    (lifecycle.destroy fabric s).1.Borrows lender := by
  rw [destroy_fst]
  refine ⟨by rintro ⟨⟩, borrows.borrowed_iff, fun lent same => ?_⟩
  have borrowed := borrows.borrowed_iff.mpr (by rw [same]; rfl)
  simp only [borrowed, reduceCtorEq, ↓reduceIte]
  exact borrows.context_of_lender lent same

end Lifecycle

theorem LifecycleOperation.perform_borrows {σ : Type} {fabric : Fabric σ}
    (operation : LifecycleOperation) {lifecycle : Lifecycle} {lender : Option ContextId}
    (borrows : lifecycle.Borrows lender) (s : σ) :
    (operation.perform fabric lifecycle s).2.1.Borrows (operation.lender lifecycle lender) := by
  cases operation with
  | start =>
      change (lifecycle.start fabric s).2.1.Borrows
        (if lifecycle.isLive then lender else lifecycle.shared)
      unfold Lifecycle.start
      split
      · exact borrows
      · exact Lifecycle.establish_borrows lifecycle lifecycle.shared s
  | establish context => exact Lifecycle.establish_borrows lifecycle context s
  | renew => exact Lifecycle.renew_borrows fabric borrows s
  | destroy => exact Lifecycle.destroy_borrows borrows s

/-! ## Failed openings -/

namespace Lifecycle

variable {σ : Type} {fabric : Fabric σ}

theorem establish_socket_of_error {lifecycle : Lifecycle} {context : Option ContextId} {s : σ}
    {error : LinkError} (failed : (lifecycle.establish fabric context s).1 = .error error) :
    (lifecycle.establish fabric context s).2.1.socket = none := by
  rw [establish_eq] at failed ⊢
  cases context <;> exact openOn_socket_of_error failed

theorem renew_socket_of_error {lifecycle : Lifecycle} {s : σ} {error : LinkError}
    (failed : (lifecycle.renew fabric s).1 = .error error) :
    (lifecycle.renew fabric s).2.1.socket = none := by
  rw [renew_eq] at failed ⊢
  cases held : lifecycle.context <;> rw [held] at failed <;> exact openOn_socket_of_error failed

end Lifecycle

/-! ## Runs -/

/-- A lifecycle amid recorded surroundings, and the context its latest initialization was given. -/
structure Tenure (σ : Type) where
  lifecycle : Lifecycle
  recorded : Recorded σ
  lender : Option ContextId := none

namespace Tenure

variable {σ : Type} (fabric : Fabric σ)

def step (tenure : Tenure σ) (operation : LifecycleOperation) : Tenure σ :=
  match operation.perform fabric.recording tenure.lifecycle tenure.recorded with
  | (_, lifecycle, recorded) =>
      ⟨lifecycle, recorded, operation.lender tenure.lifecycle tenure.lender⟩

def run (tenure : Tenure σ) (operations : List LifecycleOperation) : Tenure σ :=
  operations.foldl (step fabric) tenure

/-- The record tells of the socket that is held, and the context is held as it was lent. -/
structure IsSound (tenure : Tenure σ) : Prop where
  tells : tenure.recorded.Tells tenure.lifecycle.socket
  borrows : tenure.lifecycle.Borrows tenure.lender

theorem step_isSound {tenure : Tenure σ} (sound : tenure.IsSound)
    (operation : LifecycleOperation) : (tenure.step fabric operation).IsSound where
  tells :=
    (operation.perform_keeps
      (fabric.recording_keeps tenure.lifecycle.role tenure.lifecycle.endpoint
        tenure.lifecycle.options)
      ⟨⟨rfl, rfl, rfl⟩, sound.tells⟩).2
  borrows := operation.perform_borrows sound.borrows tenure.recorded

theorem run_isSound {tenure : Tenure σ} (sound : tenure.IsSound)
    (operations : List LifecycleOperation) : (tenure.run fabric operations).IsSound := by
  induction operations generalizing tenure with
  | nil => exact sound
  | cons operation rest ih => exact ih (step_isSound fabric sound operation)

theorem run_eq_performAll (tenure : Tenure σ) (operations : List LifecycleOperation) :
    ((tenure.run fabric operations).lifecycle,
        (tenure.run fabric operations).recorded.surroundings) =
      LifecycleOperation.performAll fabric operations tenure.lifecycle
        tenure.recorded.surroundings := by
  induction operations generalizing tenure with
  | nil => rfl
  | cons operation rest ih =>
      have same := operation.perform_recording fabric tenure.lifecycle tenure.recorded
      have next := ih (tenure.step fabric operation)
      unfold LifecycleOperation.performAll at next ⊢
      rw [List.foldl_cons, ← same]
      exact next

/-- What holds of a lifecycle at any time, and of whatever is done to it next. -/
structure Obeys (tenure : Tenure σ) : Prop where
  one_live : ∀ moment, moment <:+ tenure.recorded.events → (SocketEvent.live moment).length ≤ 1
  inTurn : SocketEvent.InTurn tenure.recorded.events
  live_eq : SocketEvent.live tenure.recorded.events = tenure.lifecycle.socket.toList
  context_of_live : tenure.lifecycle.isLive = true → tenure.lifecycle.context.isSome = true
  borrowed_iff : tenure.lifecycle.ownership = .borrowed ↔ tenure.lender.isSome = true
  context_of_lender : ∀ context, tenure.lender = some context →
    tenure.lifecycle.context = some context ∧
      (tenure.lifecycle.destroy fabric tenure.recorded.surroundings).1.context = some context ∧
      (tenure.lifecycle.renew fabric tenure.recorded.surroundings).2.1.context = some context
  destroy_owned : tenure.lifecycle.ownership = .owned →
    (tenure.lifecycle.destroy fabric tenure.recorded.surroundings).1.socket = none ∧
      (tenure.lifecycle.destroy fabric tenure.recorded.surroundings).1.context = none
  renew_ownership :
    (tenure.lifecycle.renew fabric tenure.recorded.surroundings).2.1.ownership =
      tenure.lifecycle.ownership
  failure_empties : ∀ operation : LifecycleOperation, ∀ error,
    (operation.perform fabric tenure.lifecycle tenure.recorded.surroundings).1 = .error error →
      (operation = .start ∧ tenure.lifecycle.isLive = true) ∨
        (operation.perform fabric tenure.lifecycle
          tenure.recorded.surroundings).2.1.isLive = false
  destroy_again :
    let first := tenure.lifecycle.destroy fabric tenure.recorded.surroundings
    first.1.destroy fabric first.2 = first
  start_again : tenure.lifecycle.isLive = true →
    tenure.lifecycle.start fabric tenure.recorded.surroundings =
      (.error .alreadyRunning, tenure.lifecycle, tenure.recorded.surroundings)

theorem failure_empties (operation : LifecycleOperation) {lifecycle : Lifecycle} {s : σ}
    {error : LinkError} (failed : (operation.perform fabric lifecycle s).1 = .error error) :
    (operation = .start ∧ lifecycle.isLive = true) ∨
      (operation.perform fabric lifecycle s).2.1.isLive = false := by
  have unmapped {result : Except LinkError SocketId}
      (mapped : result.map (fun _ => ()) = .error error) :
      result = .error error := by
    cases result with
    | ok socket => cases mapped
    | error cause => cases mapped; rfl
  have isLive_of_none {after : Lifecycle} (empty : after.socket = none) : after.isLive = false := by
    rw [Lifecycle.isLive, empty]
    rfl
  cases operation with
  | start =>
      cases live : lifecycle.isLive with
      | true => exact Or.inl ⟨rfl, rfl⟩
      | false =>
          have same : lifecycle.start fabric s = lifecycle.establish fabric lifecycle.shared s := by
            simp [Lifecycle.start, live]
          refine Or.inr (isLive_of_none ?_)
          change (lifecycle.start fabric s).2.1.socket = none
          rw [same]
          refine Lifecycle.establish_socket_of_error (?_ : _ = Except.error error)
          rw [← same]
          exact unmapped failed
  | establish context =>
      exact Or.inr (isLive_of_none (Lifecycle.establish_socket_of_error (unmapped failed)))
  | renew => exact Or.inr (isLive_of_none (Lifecycle.renew_socket_of_error (unmapped failed)))
  | destroy => cases failed

theorem IsSound.obeys {tenure : Tenure σ} (sound : tenure.IsSound) : tenure.Obeys fabric where
  one_live moment past := (sound.tells.2.suffix past).live_length_le
  inTurn := sound.tells.2
  live_eq := sound.tells.1
  context_of_live live := sound.borrows.context_of_live live
  borrowed_iff := sound.borrows.borrowed_iff
  context_of_lender context lent :=
    ⟨sound.borrows.context_of_lender context lent,
      (Lifecycle.destroy_borrows sound.borrows _).context_of_lender context lent,
      (Lifecycle.renew_borrows fabric sound.borrows _).context_of_lender context lent⟩
  destroy_owned owned := by
    rw [Lifecycle.destroy_fst, owned]
    exact ⟨rfl, rfl⟩
  renew_ownership := by
    have before := sound.borrows.borrowed_iff
    have after := (Lifecycle.renew_borrows fabric sound.borrows
      tenure.recorded.surroundings).borrowed_iff
    cases held : tenure.lifecycle.ownership <;>
      cases kept : (tenure.lifecycle.renew fabric tenure.recorded.surroundings).2.1.ownership <;>
      simp_all
  failure_empties operation error failed := failure_empties fabric operation failed
  destroy_again := Lifecycle.destroy_destroy fabric tenure.lifecycle _
  start_again live := Lifecycle.start_of_isLive fabric tenure.lifecycle _ live

/--
Whatever is done to a fresh lifecycle, in whatever order and with whatever
openings failing, it holds at most one live socket at any time, and the
context it holds is its own or the lender's, as the latest initialization said.
-/
theorem run_obeys (role : SocketRole) (endpoint : Endpoint) (options : SocketOptions)
    (shared : Option ContextId) (s : σ) (operations : List LifecycleOperation) :
    let fresh : Lifecycle :=
      { role := role, endpoint := endpoint, options := options, shared := shared }
    let reached := run fabric ⟨fresh, ⟨s, []⟩, none⟩ operations
    reached.Obeys fabric ∧
      (reached.lifecycle, reached.recorded.surroundings) =
        LifecycleOperation.performAll fabric operations fresh s := by
  intro fresh reached
  have sound : IsSound (⟨fresh, ⟨s, []⟩, none⟩ : Tenure σ) :=
    ⟨⟨rfl, trivial⟩, ⟨by rintro ⟨⟩, ⟨by rintro ⟨⟩, by rintro ⟨⟩⟩, by rintro context ⟨⟩⟩⟩
  exact ⟨(run_isSound fabric sound operations).obeys fabric,
    run_eq_performAll fabric ⟨fresh, ⟨s, []⟩, none⟩ operations⟩

end Tenure

end TaskLink
