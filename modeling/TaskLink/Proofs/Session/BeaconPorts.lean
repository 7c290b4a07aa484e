import TaskLink.Proofs.Messaging.BoundPorts
import TaskLink.Proofs.Session.Tenancy

/-!
# Beacons and their ports

What starting, stopping and publishing come to for a beacon among other roles,
after whatever was done to all of them: which starts are refused and how, when
a port is free again, which payload a tick publishes, and what is counted.
-/

namespace TaskLink

namespace Tenancy

variable {σ : Type} {fabric : Fabric σ} {tenancy : Tenancy fabric} {book : PortBook fabric}
  {key other : Nat} {tenant : Tenant} {beacon : Beacon} {port : UInt16}

/-! ## Held ports -/

/-- A role holds a port if it has a socket and the port is its own. -/
theorem IsSound.holdsPort_iff (sound : tenancy.IsSound book) :
    tenancy.HoldsPort book key port ↔
      ∃ tenant, tenancy.tenants key = some tenant ∧ tenant.socket ≠ none ∧ tenant.port = port := by
  constructor
  · rintro ⟨tenant, id, present, holds, -, isAt⟩
    exact ⟨tenant, present, by rw [holds]; exact Option.some_ne_none id, isAt⟩
  · rintro ⟨tenant, present, live, isAt⟩
    obtain ⟨id, holds⟩ := Option.ne_none_iff_exists'.mp live
    exact ⟨tenant, id, present, holds, sound.occupies key tenant present id holds, isAt⟩

theorem IsSound.isTaken_iff (sound : tenancy.IsSound book) :
    (book.bindings tenancy.state).IsTaken port ↔ ∃ key, tenancy.HoldsPort book key port := by
  constructor
  · rintro ⟨id, binding, isBound, isAt⟩
    obtain ⟨key, owns⟩ := sound.held id binding isBound
    obtain ⟨tenant, present, holds⟩ := Option.bind_eq_some_iff.mp owns
    have isOwn := sound.occupies key tenant present id holds
    cases isBound.symm.trans isOwn
    exact ⟨key, tenant, id, present, holds, isOwn, isAt⟩
  · rintro ⟨key, tenant, id, present, holds, isBound, isAt⟩
    exact ⟨id, tenant.binding, isBound, isAt⟩

theorem IsSound.holdsPort_unique (sound : tenancy.IsSound book)
    (first : tenancy.HoldsPort book key port) (second : tenancy.HoldsPort book other port) :
    key = other := by
  obtain ⟨tenant, id, present, holds, isBound, isAt⟩ := first
  obtain ⟨tenantToo, idToo, presentToo, holdsToo, isBoundToo, isAtToo⟩ := second
  have same : id = idToo := sound.ports id idToo _ _ isBound isBoundToo (isAt.trans isAtToo.symm)
  subst same
  exact sound.apart key other id ((socketOf_eq present).trans holds)
    ((socketOf_eq presentToo).trans holdsToo)

theorem IsSound.isRunning_iff (sound : tenancy.IsSound book)
    (present : tenancy.tenants key = some (.publishing beacon)) :
    beacon.isRunning = true ↔ tenancy.HoldsPort book key beacon.port := by
  rw [sound.holdsPort_iff, Beacon.isRunning, Tenant.running_iff (sound.formed key _ present)]
  constructor
  · intro live
    exact ⟨_, present, live, rfl⟩
  · rintro ⟨tenant, isThere, live, -⟩
    cases present.symm.trans isThere
    exact live

/-! ## Starting and stopping -/

theorem perform_absent (absent : tenancy.tenants key = none) (action : TenantAction) :
    tenancy.perform key action = (.ok (), tenancy) := by
  rw [perform, absent]

theorem perform_eq (present : tenancy.tenants key = some tenant) (action : TenantAction) :
    tenancy.perform key action =
      ((tenant.perform fabric tenancy.state action).1,
        tenancy.replace key (tenant.perform fabric tenancy.state action).2.1
          (tenant.perform fabric tenancy.state action).2.2) := by
  rw [perform, present]

theorem tenants_perform_self (present : tenancy.tenants key = some tenant)
    (action : TenantAction) :
    (tenancy.perform key action).2.tenants key =
      (tenant.perform fabric tenancy.state action).2.1 := by
  rw [perform_eq present, tenants_replace_self]

theorem perform_start (present : tenancy.tenants key = some tenant)
    (spawned : Except String Unit) :
    tenancy.perform key (.start spawned) =
      ((tenant.start fabric spawned tenancy.state).1,
        tenancy.replace key (some (tenant.start fabric spawned tenancy.state).2.1)
          (tenant.start fabric spawned tenancy.state).2.2) :=
  perform_eq present (.start spawned)

theorem perform_stop (present : tenancy.tenants key = some tenant) :
    tenancy.perform key .stop =
      (.ok (), tenancy.replace key (some (tenant.stop fabric tenancy.state).1)
        (tenant.stop fabric tenancy.state).2) :=
  perform_eq present .stop

theorem perform_endTick (present : tenancy.tenants key = some tenant) :
    tenancy.perform key .endTick =
      (.ok (), tenancy.replace key (some (tenant.endTick fabric tenancy.state).1)
        (tenant.endTick fabric tenancy.state).2) :=
  perform_eq present .endTick

theorem replace_self (present : tenancy.tenants key = some tenant) (next : σ) :
    tenancy.replace key (some tenant) next = { tenancy with state := next } := by
  rw [replace, ← present, Function.update_eq_self]

theorem IsSound.start_running (sound : tenancy.IsSound book)
    (present : tenancy.tenants key = some tenant) (live : tenant.socket ≠ none)
    (spawned : Except String Unit) :
    tenancy.perform key (.start spawned) = (.error tenant.runsAlready, tenancy) := by
  have starts := Tenant.start_starts (sound.formed key tenant present) sound.intact spawned
  rw [perform_start present]
  generalize tenant.start fabric spawned tenancy.state = result at starts ⊢
  cases starts with
  | running _ _ => rw [replace_self present]
  | refused idle => exact absurd idle live
  | unspawned _ idle => exact absurd idle live
  | opened idle => exact absurd idle live

/-- An idle beacon that something speaks against is not started, and nothing changes. -/
theorem IsSound.start_refused (sound : tenancy.IsSound book)
    (present : tenancy.tenants key = some (.publishing beacon))
    (idle : (Tenant.publishing beacon).socket = none)
    (unwelcome : ¬ (Tenant.publishing beacon).IsWelcome book (book.bindings tenancy.state))
    (spawned : Except String Unit) :
    ∃ error next, (Tenant.publishing beacon).Fault book (book.bindings tenancy.state) error ∧
      fabric.IsUntouched tenancy.state next ∧
      book.bindings next = book.bindings tenancy.state ∧
      tenancy.perform key (.start spawned) =
        (.error (.link error), { tenancy with state := next }) := by
  have starts := Tenant.start_starts (sound.formed key _ present) sound.intact spawned
  rw [perform_start present]
  generalize (Tenant.publishing beacon).start fabric spawned tenancy.state = result at starts ⊢
  cases starts with
  | running live => exact absurd idle live
  | @refused error held next _ fault kept untouched moves =>
      cases kept beacon rfl
      refine ⟨error, next, fault, untouched, ?_, by rw [replace_self present]⟩
      rcases untouched with rfl | rfl
      · rfl
      · exact (book.newContext sound.intact).2
  | unspawned _ _ welcome => exact absurd welcome unwelcome
  | opened _ welcome => exact absurd welcome unwelcome

/-- An idle beacon that gets no thread is not started, and gives its port back. -/
theorem IsSound.start_unspawned (sound : tenancy.IsSound book)
    (present : tenancy.tenants key = some (.publishing beacon))
    (idle : (Tenant.publishing beacon).socket = none)
    (welcome : (Tenant.publishing beacon).IsWelcome book (book.bindings tenancy.state))
    (reason : String) :
    ∃ next, book.bindings next = book.bindings tenancy.state ∧
      tenancy.perform key (.start (.error reason)) =
        (.error (.worker ("heartbeat publisher: " ++ reason)), { tenancy with state := next }) := by
  have starts := Tenant.start_starts (sound.formed key _ present) sound.intact (.error reason)
  rw [perform_start present]
  generalize (Tenant.publishing beacon).start fabric (.error reason) tenancy.state = result
    at starts ⊢
  cases starts with
  | running live => exact absurd idle live
  | refused _ fault => exact absurd welcome fault.not_isWelcome
  | @unspawned _ _ next _ _ _ failed unchanged _ =>
      cases failed
      exact ⟨next, unchanged, by rw [replace_self present]⟩
  | opened _ _ granted => cases granted beacon rfl

/-- An idle role that nothing speaks against is started, and holds its port then. -/
theorem IsSound.start_opened (sound : tenancy.IsSound book)
    (present : tenancy.tenants key = some tenant) (idle : tenant.socket = none)
    (welcome : tenant.IsWelcome book (book.bindings tenancy.state)) :
    (tenancy.perform key (.start (.ok ()))).1 = .ok () ∧
      (tenancy.perform key (.start (.ok ()))).2.HoldsPort book key tenant.port := by
  have soundAfter := sound.perform key (.start (.ok ()))
  have starts := Tenant.start_starts (sound.formed key tenant present) sound.intact (.ok ())
  rw [perform_start present] at soundAfter ⊢
  generalize tenant.start fabric (.ok ()) tenancy.state = result at starts soundAfter ⊢
  cases starts with
  | running live => exact absurd idle live
  | refused _ fault => exact absurd welcome fault.not_isWelcome
  | unspawned _ _ _ failed => cases failed
  | @opened held after _ _ _ live moves =>
      refine ⟨rfl, soundAfter.holdsPort_iff.mpr ⟨held, tenants_replace_self, live, ?_⟩⟩
      rw [Tenant.port, moves.binding, Tenant.port]

theorem stop_again (present : tenancy.tenants key = some tenant) :
    (tenancy.perform key .stop).2.perform key .stop = (.ok (), (tenancy.perform key .stop).2) := by
  have stopped : (tenancy.perform key .stop).2.tenants key =
      some (tenant.stop fabric tenancy.state).1 := by
    rw [perform_stop present]
    exact tenants_replace_self
  have state : (tenancy.perform key .stop).2.state = (tenant.stop fabric tenancy.state).2 := by
    rw [perform_stop present]
    rfl
  rw [perform_stop stopped, state, tenant.stop_stop fabric tenancy.state, replace_self stopped,
    ← state]

/-! ## Free ports -/

theorem tenants_perform_of_ne (different : other ≠ key) (action : TenantAction) :
    (tenancy.perform key action).2.tenants other = tenancy.tenants other := by
  unfold perform
  cases tenancy.tenants key with
  | none => rfl
  | some tenant => exact tenants_replace_of_ne different

/-- A role that was stopped or dropped holds no port. -/
theorem IsSound.not_holdsPort (sound : tenancy.IsSound book)
    (present : tenancy.tenants key = some tenant) {action : TenantAction}
    (isEnd : action = .stop ∨ action = .drop) :
    ¬ (tenancy.perform key action).2.HoldsPort book key port := by
  have empty := (Tenant.stop_moves (sound.formed key tenant present) sound.intact
    (sound.occupies key tenant present)).2
  rintro ⟨left, id, isThere, holds, -⟩
  rw [tenants_perform_self present] at isThere
  rcases isEnd with rfl | rfl
  · cases isThere
    cases holds.symm.trans empty
  · cases isThere

/-- The port of a role that was stopped or dropped is free. -/
theorem IsSound.free_of_end (sound : tenancy.IsSound book)
    (present : tenancy.tenants key = some tenant) (holds : tenancy.HoldsPort book key port)
    {action : TenantAction} (isEnd : action = .stop ∨ action = .drop) :
    ¬ (book.bindings (tenancy.perform key action).2.state).IsTaken port := by
  have soundAfter := sound.perform key action
  rw [soundAfter.isTaken_iff]
  rintro ⟨other, holdsAfter⟩
  by_cases same : other = key
  · exact sound.not_holdsPort present isEnd (same ▸ holdsAfter)
  · rw [soundAfter.holdsPort_iff, tenants_perform_of_ne same, ← sound.holdsPort_iff] at holdsAfter
    exact same (sound.holdsPort_unique holdsAfter holds)

theorem IsSound.port_perform (sound : tenancy.IsSound book) (key : Nat) (action : TenantAction)
    {after : Tenant} (isThere : (tenancy.perform key action).2.tenants other = some after) :
    ∃ tenant, tenancy.tenants other = some tenant ∧ after.port = tenant.port := by
  by_cases same : other = key
  · cases present : tenancy.tenants key with
    | none =>
        rw [perform_absent present] at isThere
        exact ⟨after, isThere, rfl⟩
    | some tenant =>
        obtain ⟨moved, moves, leaves, -⟩ := Tenant.perform_moves (sound.formed key tenant present)
          sound.intact (sound.occupies key tenant present) action
        rw [perform_eq present, same, tenants_replace_self] at isThere
        rcases leaves with stays | ⟨gone, -⟩
        · cases isThere.symm.trans stays
          refine ⟨tenant, same ▸ present, ?_⟩
          rw [Tenant.port, moves.binding, Tenant.port]
        · cases isThere.symm.trans gone
  · rw [tenants_perform_of_ne same] at isThere
    exact ⟨after, isThere, rfl⟩

def Claims (tenancy : Tenancy fabric) (port : UInt16) (action : Nat × TenantAction) : Prop :=
  action.2.IsStart ∧ ∃ tenant, tenancy.tenants action.1 = some tenant ∧ tenant.port = port

/-- A port that nobody holds stays free until a role is started on it. -/
theorem IsSound.free_perform (sound : tenancy.IsSound book) {action : Nat × TenantAction}
    (free : ¬ (book.bindings tenancy.state).IsTaken port) (quiet : ¬ tenancy.Claims port action) :
    ¬ (book.bindings (tenancy.perform action.1 action.2).2.state).IsTaken port := by
  cases present : tenancy.tenants action.1 with
  | none =>
      rw [perform_absent present]
      exact free
  | some tenant =>
      obtain ⟨after, moves, -, keeps⟩ := Tenant.perform_moves (sound.formed _ tenant present)
        sound.intact (sound.occupies _ tenant present) action.2
      rw [perform_eq present, state_replace]
      rintro ⟨id, binding, isBound, isAt⟩
      obtain was | ⟨idle, holds, rfl⟩ := moves.rebinds.cases_of_bound isBound
      · exact free ⟨id, binding, was, isAt⟩
      · have starts : action.2.IsStart := by
          by_contra notStart
          rcases keeps notStart with kept | empty
          · cases (holds.symm.trans kept).trans idle
          · cases holds.symm.trans empty
        exact quiet ⟨starts, tenant, present, isAt⟩

theorem IsSound.free_run (sound : tenancy.IsSound book) {actions : List (Nat × TenantAction)}
    (free : ¬ (book.bindings tenancy.state).IsTaken port)
    (quiet : ∀ action ∈ actions, ¬ tenancy.Claims port action) :
    ¬ (book.bindings (tenancy.run actions).state).IsTaken port := by
  induction actions generalizing tenancy with
  | nil => exact free
  | cons action later ih =>
      refine ih (sound.perform action.1 action.2)
        (sound.free_perform free (quiet action List.mem_cons_self)) ?_
      rintro next isIn ⟨starts, after, isThere, isAt⟩
      obtain ⟨tenant, present, same⟩ := sound.port_perform action.1 action.2 isThere
      exact quiet next (List.mem_cons_of_mem _ isIn) ⟨starts, tenant, present, same ▸ isAt⟩

/-! ## What is under one key -/

def under (key : Nat) (actions : List (Nat × TenantAction)) : List TenantAction :=
  (actions.filter (·.1 = key)).map Prod.snd

def ticks (key : Nat) (actions : List (Nat × TenantAction)) : Nat :=
  (under key actions).foldr (fun action later => action.ticks + later) 0

def payloadAfter (key : Nat) (payload : ByteArray) (actions : List (Nat × TenantAction)) :
    ByteArray :=
  (under key actions).foldl TenantAction.payloadAfter payload

theorem under_cons_self (action : TenantAction) (later : List (Nat × TenantAction)) :
    under key ((key, action) :: later) = action :: under key later := by
  simp [under]

theorem under_cons_of_ne (different : other ≠ key) (action : TenantAction)
    (later : List (Nat × TenantAction)) : under key ((other, action) :: later) = under key later := by
  simp [under, different]

theorem payloadAfter_of_unset {actions : List (Nat × TenantAction)} (payload : ByteArray)
    (unset : ∀ action ∈ actions, action.1 = key → ∀ other, action.2 ≠ .setPayload other) :
    payloadAfter key payload actions = payload := by
  have kept : ∀ action ∈ under key actions, action.payloadAfter payload = payload := by
    intro action isIn
    obtain ⟨⟨acted, what⟩, isThere, rfl⟩ := List.mem_map.mp isIn
    obtain ⟨isIn, same⟩ := List.mem_filter.mp isThere
    cases what with
    | setPayload other => exact absurd rfl (unset _ isIn (of_decide_eq_true same) other)
    | start | stop | drop | beginTick | endTick => rfl
  unfold payloadAfter
  generalize under key actions = row at kept
  induction row with
  | nil => rfl
  | cons action later ih =>
      obtain ⟨first, rest⟩ := List.forall_mem_cons.mp kept
      rw [List.foldl_cons, first, ih rest]

theorem absent_run (absent : tenancy.tenants key = none) (actions : List (Nat × TenantAction)) :
    (tenancy.run actions).tenants key = none := by
  induction actions generalizing tenancy with
  | nil => exact absent
  | cons action later ih =>
      have stillAbsent : (tenancy.perform action.1 action.2).2.tenants key = none := by
        by_cases same : key = action.1
        · rw [← same, perform_absent absent]
          exact absent
        · rw [tenants_perform_of_ne same, absent]
      exact ih stillAbsent

/-- A beacon has the payload that was set last, and counted its ticks. -/
theorem continues_run {after : Beacon} {actions : List (Nat × TenantAction)}
    (present : tenancy.tenants key = some (.publishing beacon))
    (isThere : (tenancy.run actions).tenants key = some (.publishing after)) :
    ∃ emitted ≤ ticks key actions,
      (beacon.setPayload (payloadAfter key beacon.payload actions)).Continues emitted after := by
  -- forward along the run; a tenant that is dropped does not come back, so it was there all along
  induction actions generalizing tenancy beacon with
  | nil =>
      cases present.symm.trans isThere
      exact ⟨0, Nat.le_refl 0, .refl after⟩
  | cons action later ih =>
      obtain ⟨acted, what⟩ := action
      by_cases same : acted = key
      · subst same
        have moved := tenants_perform_self present what
        obtain ⟨gone, -⟩ | ⟨middle, stays, emitted, atMost, one⟩ :=
          Tenant.perform_publishing fabric beacon tenancy.state what
        · cases isThere.symm.trans (absent_run (moved.trans gone) later)
        · obtain ⟨more, atMostMore, two⟩ := ih (moved.trans stays) isThere
          refine ⟨emitted + more, ?_, ?_⟩
          · rw [ticks, under_cons_self, List.foldr_cons]
            exact Nat.add_le_add atMost atMostMore
          · rw [payloadAfter, under_cons_self, List.foldl_cons]
            rw [one.payload] at two
            exact one.andThen two
      · have kept := (tenants_perform_of_ne (Ne.symm same) what).trans present
        have result := ih kept isThere
        rwa [ticks, payloadAfter, under_cons_of_ne same]

/-- A message in hand stays there until its tick ends. -/
theorem inHand_run {publisher : Broadcaster} {message : ByteArray}
    (present : tenancy.tenants key = some (.publishing beacon)) (running : beacon.running = true)
    (works : beacon.worker = some ⟨publisher, some message⟩) {actions : List (Nat × TenantAction)}
    (goesOn : ∀ action ∈ actions, action.1 = key → action.2.ticks = 0) :
    ∃ after, (tenancy.run actions).tenants key = some (.publishing after) ∧
      after.worker = some ⟨publisher, some message⟩ := by
  induction actions generalizing tenancy beacon with
  | nil => exact ⟨beacon, present, works⟩
  | cons action later ih =>
      obtain ⟨acted, what⟩ := action
      obtain ⟨now, goesOn⟩ := List.forall_mem_cons.mp goesOn
      by_cases same : acted = key
      · subst same
        obtain ⟨middle, stays, running, works⟩ :=
          Tenant.perform_inHand fabric running works tenancy.state (now rfl)
        exact ih ((tenants_perform_self present what).trans stays) running works goesOn
      · exact ih ((tenants_perform_of_ne (Ne.symm same) what).trans present) running works goesOn

/-! ## Ticks -/

/--
A tick is under way, and however it ends its message is given to the socket
that is bound to the beacon's port, and counted.
-/
structure Publishes (tenancy : Tenancy fabric) (book : PortBook fabric) (key : Nat)
    (message : ByteArray) : Prop where
  ends : ∃ beacon publisher id after, tenancy.tenants key = some (.publishing beacon) ∧
    book.bindings tenancy.state id = some ⟨.publisher, .any beacon.port⟩ ∧
    fabric.send id message false tenancy.state = (.ok (), after) ∧
    tenancy.perform key .endTick =
      (.ok (), tenancy.replace key (some (.publishing { beacon with
        worker := some ⟨publisher, none⟩, published := beacon.published + 1 })) after)
  /-- The worker ends its tick before the beacon stops. -/
  stops : tenancy.perform key .stop = (tenancy.perform key .endTick).2.perform key .stop
  drops : tenancy.perform key .drop = (tenancy.perform key .endTick).2.perform key .drop

theorem replace_replace (first second : Option Tenant) (middle last : σ) :
    (tenancy.replace key first middle).replace key second last =
      tenancy.replace key second last := by
  simp [replace]

theorem perform_after_endTick (present : tenancy.tenants key = some tenant)
    {action : TenantAction} (isEnd : action = .stop ∨ action = .drop) :
    tenancy.perform key action = (tenancy.perform key .endTick).2.perform key action := by
  have again := tenant.stop_endTick fabric tenancy.state
  rw [perform_endTick present, perform_eq tenants_replace_self, replace_replace, state_replace,
    perform_eq present]
  rcases isEnd with rfl | rfl
  · rw [Tenant.perform, Tenant.perform, again]
  · rw [Tenant.perform, Tenant.perform, again]

/-- A tick ends by publishing what is in hand. -/
theorem IsSound.publishes (sound : tenancy.IsSound book) {publisher : Broadcaster}
    {message : ByteArray} (present : tenancy.tenants key = some (.publishing beacon))
    (works : beacon.worker = some ⟨publisher, some message⟩) :
    tenancy.Publishes book key message where
  ends := by
    have ends := Tenant.endTick_ends (sound.formed key _ present) sound.intact
      (sound.occupies key _ present)
    rw [perform_endTick present]
    generalize (Tenant.publishing beacon).endTick fabric tenancy.state = result at ends ⊢
    cases ends with
    | none nothing => exact absurd works (nothing beacon rfl publisher message)
    | @published _ holder taken id after worksToo _ isBound sent =>
        cases works.symm.trans worksToo
        exact ⟨beacon, publisher, id, after, present, isBound, sent, rfl⟩
  stops := perform_after_endTick present (.inl rfl)
  drops := perform_after_endTick present (.inr rfl)

/-- The worker of a running beacon takes the payload in hand, unless it has a message there. -/
theorem IsSound.beginTick_takes (sound : tenancy.IsSound book)
    (present : tenancy.tenants key = some (.publishing beacon)) (running : beacon.running = true)
    (quiet : beacon.IsQuiet) :
    ∃ publisher, (tenancy.perform key .beginTick).2.tenants key = some (.publishing
      { beacon with worker := some ⟨publisher, some beacon.payload⟩ }) := by
  have formed := sound.formed key _ present
  cases formed with
  | idle notRunning => cases notRunning.symm.trans running
  | @live publisher inHand id _ works holds =>
      cases inHand with
      | some message => exact absurd works (quiet publisher message)
      | none =>
          refine ⟨publisher, ?_⟩
          rw [tenants_perform_self present, Tenant.perform, Tenant.beginTick,
            Beacon.beginTick_of_running fabric running works]

/-- A tick that begins takes the payload, whatever is set while it goes on. -/
theorem IsSound.publishes_of_beginTick (sound : tenancy.IsSound book)
    (present : tenancy.tenants key = some (.publishing beacon)) (running : beacon.running = true)
    (quiet : beacon.IsQuiet) {later : List (Nat × TenantAction)}
    (goesOn : ∀ action ∈ later, action.1 = key → action.2.ticks = 0) :
    ((tenancy.perform key .beginTick).2.run later).Publishes book key beacon.payload := by
  obtain ⟨publisher, begun⟩ := sound.beginTick_takes present running quiet
  obtain ⟨after, isThere, works⟩ := inHand_run begun running rfl goesOn
  exact ((sound.perform key .beginTick).run later).publishes isThere works

/-- In a network, what a tick publishes reaches every subscriber of the port. -/
theorem Publishes.isHeard {tenancy : Tenancy Network.fabric} {message : ByteArray}
    (intact : tenancy.state.IsIntact)
    (publishes : tenancy.Publishes Network.portBook key message) :
    ∃ beacon id, tenancy.tenants key = some (.publishing beacon) ∧
      ∀ other, (tenancy.perform key .endTick).2.state.find? other =
        (tenancy.state.find? other).map
          (NetworkSocket.hearing beacon.port ⟨id, message, []⟩) := by
  obtain ⟨beacon, publisher, id, after, present, isBound, sent, ended⟩ := publishes.ends
  obtain ⟨heardBy, sentToo, -, -, heard⟩ := Network.send_of_bound intact isBound message
  have same : heardBy = after := congrArg Prod.snd (sentToo.symm.trans sent)
  refine ⟨beacon, id, present, fun other => ?_⟩
  rw [ended, state_replace, ← same]
  exact heard other

def wholeTicks (key count : Nat) : List (Nat × TenantAction) :=
  (List.replicate count [(key, .beginTick), (key, .endTick)]).flatten

/-- Each whole tick of a running beacon is counted; the count goes round. -/
theorem IsSound.wholeTicks_run (sound : tenancy.IsSound book)
    (present : tenancy.tenants key = some (.publishing beacon)) (running : beacon.running = true)
    (quiet : beacon.IsQuiet) (count : Nat) :
    ∃ after, (tenancy.run (wholeTicks key count)).tenants key = some (.publishing after) ∧
      after.running = true ∧ after.IsQuiet ∧
      after.published = beacon.published + .ofNat count := by
  induction count generalizing tenancy beacon with
  | zero => exact ⟨beacon, present, running, quiet, (UInt64.add_zero _).symm⟩
  | succ count ih =>
      obtain ⟨publisher, begun⟩ := sound.beginTick_takes present running quiet
      have soundBegun := sound.perform key .beginTick
      have soundEnded := soundBegun.perform key .endTick
      obtain ⟨taking, holder, id, next, isThere, -, -, ended⟩ := (soundBegun.publishes begun rfl).ends
      cases begun.symm.trans isThere
      have counted := congrArg (·.2.tenants key) ended
      obtain ⟨after, present, runs, quiet, published⟩ :=
        ih soundEnded (counted.trans tenants_replace_self) running (by rintro publisher message ⟨⟩)
      refine ⟨after, present, runs, quiet, ?_⟩
      rw [published, UInt64.add_assoc, Nat.add_comm count, UInt64.ofNat_add]
      rfl

/-- However much a beacon has counted, some tick brings its count back to nothing. -/
theorem IsSound.count_goes_round (sound : tenancy.IsSound book)
    (present : tenancy.tenants key = some (.publishing beacon)) (running : beacon.running = true)
    (quiet : beacon.IsQuiet) :
    ∃ count full wrapped,
      (tenancy.run (wholeTicks key count)).tenants key = some (.publishing full) ∧
      ((tenancy.run (wholeTicks key count)).run (wholeTicks key 1)).tenants key =
        some (.publishing wrapped) ∧
      full.published = .ofNat (UInt64.size - 1) ∧ wrapped.published = 0 := by
  -- as many ticks as are left to the largest count, and one more
  let count := UInt64.size - 1 - beacon.published.toNat
  obtain ⟨full, isFull, running, quiet, most⟩ := sound.wholeTicks_run present running quiet count
  obtain ⟨wrapped, isWrapped, -, -, least⟩ :=
    (sound.run (wholeTicks key count)).wholeTicks_run isFull running quiet 1
  have isMost : full.published = .ofNat (UInt64.size - 1) := by
    have small : beacon.published.toNat ≤ UInt64.size - 1 :=
      Nat.le_sub_one_of_lt beacon.published.toNat_lt
    rw [most, ← Nat.add_sub_cancel' small, UInt64.ofNat_add, UInt64.ofNat_toNat]
  refine ⟨count, full, wrapped, isFull, isWrapped, isMost, ?_⟩
  rw [least, isMost]
  decide

/-! ## Beacons -/

/-- No port is bound, no context was terminated, and all roles are new. -/
structure Begins (tenancy : Tenancy fabric) (book : PortBook fabric) : Prop where
  intact : book.IsIntact tenancy.state
  free : ∀ id, book.bindings tenancy.state id = none
  fresh : ∀ key tenant, tenancy.tenants key = some tenant → tenant.IsNew

theorem Begins.isSound (begins : tenancy.Begins book) : tenancy.IsSound book := by
  have unbound : ∀ id binding, book.bindings tenancy.state id ≠ some binding := by
    intro id binding isBound
    cases isBound.symm.trans (begins.free id)
  have idle : ∀ key id, tenancy.socketOf key ≠ some id := by
    intro key id owns
    obtain ⟨tenant, present, holds⟩ := Option.bind_eq_some_iff.mp owns
    cases holds.symm.trans (begins.fresh key tenant present).isFormed.2
  refine ⟨begins.intact, fun key tenant present => (begins.fresh key tenant present).isFormed.1,
    ?_, ?_, ?_, ?_⟩
  · intro key tenant present id holds
    exact absurd ((socketOf_eq present).trans holds) (idle key id)
  · intro id binding isBound
    exact absurd isBound (unbound id binding)
  · intro key other id owns
    exact absurd owns (idle key id)
  · intro id other binding neighbour isBound
    exact absurd isBound (unbound id binding)

structure Upholds (tenancy : Tenancy fabric) (book : PortBook fabric) (key : Nat)
    (beacon : Beacon) : Prop where
  /-- It runs exactly while it holds its port. -/
  isRunning_iff : beacon.isRunning = true ↔ tenancy.HoldsPort book key beacon.port
  /-- Started while it runs, it is told so, and nothing changes. -/
  startedTwice : beacon.isRunning = true → ∀ spawned,
    tenancy.perform key (.start spawned) =
      (.error (.invalidState "Heartbeat publisher already running"), tenancy)
  /-- Started on the port of another role, it fails to bind, and no role and no binding changes. -/
  taken : beacon.isRunning = false → (Tenant.publishing beacon).flaw? book = none →
    ∀ other, tenancy.HoldsPort book other beacon.port → ∀ spawned,
      ∃ next, fabric.IsUntouched tenancy.state next ∧
        book.bindings next = book.bindings tenancy.state ∧
        tenancy.perform key (.start spawned) =
          (.error (.link (.bindFailed
            ("tcp://*:" ++ beacon.port.toNat.repr ++ ": " ++ "Address already in use"))),
            { tenancy with state := next })
  /-- Settings or options that are refused are refused before it binds, whoever holds the port. -/
  flawed : beacon.isRunning = false → ∀ error,
    (Tenant.publishing beacon).flaw? book = some error → ∀ spawned,
      ∃ next, fabric.IsUntouched tenancy.state next ∧
        book.bindings next = book.bindings tenancy.state ∧
        tenancy.perform key (.start spawned) =
          (.error (.link error), { tenancy with state := next })
  /-- If there is no thread for its worker it is not started, and its port is free again. -/
  unspawned : beacon.isRunning = false → (Tenant.publishing beacon).flaw? book = none →
    (∀ other, ¬ tenancy.HoldsPort book other beacon.port) → ∀ reason,
      ∃ next, book.bindings next = book.bindings tenancy.state ∧
        tenancy.perform key (.start (.error reason)) =
          (.error (.worker ("heartbeat publisher: " ++ reason)), { tenancy with state := next })
  /-- Stopped again, it stays as it is. -/
  stoppedTwice : (tenancy.perform key .stop).2.perform key .stop =
    (.ok (), (tenancy.perform key .stop).2)
  /--
  Its port is free once it is stopped or dropped, until another role is started
  there: a role without a flaw is started on it, if it gets its thread.
  -/
  freed : beacon.isRunning = true → ∀ action, action = .stop ∨ action = .drop →
    ∀ later, (∀ next ∈ later, ¬ (tenancy.perform key action).2.Claims beacon.port next) →
      ∀ other tenant, ((tenancy.perform key action).2.run later).tenants other = some tenant →
        tenant.socket = none → tenant.flaw? book = none → tenant.port = beacon.port →
          (((tenancy.perform key action).2.run later).perform other (.start (.ok ()))).1 = .ok () ∧
          (((tenancy.perform key action).2.run later).perform other
            (.start (.ok ()))).2.HoldsPort book other beacon.port
  /-- A tick that begins after a payload was set publishes it. -/
  ticks : ∀ payload between,
    (∀ action ∈ between, action.1 = key → ∀ other, action.2 ≠ .setPayload other) →
      ∀ current, ((tenancy.perform key (.setPayload payload)).2.run between).tenants key =
          some (.publishing current) →
        current.isRunning = true → current.IsQuiet →
          ∀ later, (∀ action ∈ later, action.1 = key → action.2.ticks = 0) →
            ((((tenancy.perform key (.setPayload payload)).2.run between).perform key
              .beginTick).2.run later).Publishes book key payload
  /-- It counts some of its ticks, and its count does not drop unless it goes round. -/
  counts : ∀ later after, (tenancy.run later).tenants key = some (.publishing after) →
    (∃ emitted ≤ Tenancy.ticks key later,
      after.published = beacon.published + .ofNat emitted) ∧
    (beacon.published.toNat + Tenancy.ticks key later < UInt64.size →
      beacon.published ≤ after.published)

theorem IsSound.upholds (sound : tenancy.IsSound book)
    (present : tenancy.tenants key = some (.publishing beacon)) :
    tenancy.Upholds book key beacon := by
  have running_iff := Tenant.running_iff (sound.formed key _ present)
  have idle (notRunning : beacon.isRunning = false) :
      (Tenant.publishing beacon).socket = none := by
    by_contra live
    cases notRunning.symm.trans (running_iff.mpr live)
  refine
    { isRunning_iff := sound.isRunning_iff present
      startedTwice := fun running => sound.start_running present (running_iff.mp running)
      taken := fun notRunning flawless other holds spawned => ?_
      flawed := fun notRunning error flaw spawned => ?_
      unspawned := fun notRunning flawless free => ?_
      stoppedTwice := stop_again present
      freed := fun running action isEnd later quiet other tenant isThere idle flawless isAt => ?_
      ticks := fun payload between unset current pauses running quiet later goesOn => ?_
      counts := fun later after isThere => ?_ }
  · have isTaken := sound.isTaken_iff.mpr ⟨other, holds⟩
    obtain ⟨error, next, fault, result⟩ := sound.start_refused present (idle notRunning)
      (fun welcome => welcome.free isTaken) spawned
    cases fault with
    | flawed flaw => cases flawless.symm.trans flaw
    | taken => exact ⟨next, result⟩
  · obtain ⟨error, next, fault, result⟩ := sound.start_refused present (idle notRunning)
      (fun welcome => by cases welcome.flawless.symm.trans flaw) spawned
    cases fault with
    | flawed flawToo =>
        cases flaw.symm.trans flawToo
        exact ⟨next, result⟩
    | taken flawless => cases flaw.symm.trans flawless
  · refine sound.start_unspawned present (idle notRunning) ⟨flawless, fun isTaken => ?_⟩
    obtain ⟨other, holds⟩ := sound.isTaken_iff.mp isTaken
    exact free other holds
  · have soundAfter := sound.perform key action
    have free := sound.free_of_end present ((sound.isRunning_iff present).mp running) isEnd
    have stillFree := soundAfter.free_run free quiet
    rw [← isAt] at stillFree ⊢
    exact (soundAfter.run later).start_opened isThere idle ⟨flawless, stillFree⟩
  · have set : (tenancy.perform key (.setPayload payload)).2.tenants key =
        some (.publishing (beacon.setPayload payload)) := by
      rw [perform_eq present]
      exact tenants_replace_self
    obtain ⟨emitted, -, continues⟩ := continues_run set pauses
    have kept : current.payload = payload :=
      continues.payload.trans (payloadAfter_of_unset payload unset)
    have soundAfter := (sound.perform key (.setPayload payload)).run between
    have published := soundAfter.publishes_of_beginTick pauses running quiet goesOn
    rw [kept] at published
    exact published
  · obtain ⟨emitted, atMost, continues⟩ := continues_run present isThere
    exact ⟨⟨emitted, atMost, continues.counted⟩, fun fits =>
      continues.published_le (Nat.lt_of_le_of_lt (Nat.add_le_add_left atMost _) fits)⟩

/--
Beacons and servers that are started, stopped, given payloads and dropped in
any order keep out of each other's way: a beacon runs exactly while it holds
its port, a start that fails changes nothing, a stop frees the port, a tick
publishes the payload that was set before it, and counts do not drop until
they go round.
-/
theorem beacons_run_on_held_ports {begun : Tenancy fabric} (begins : begun.Begins book)
    (actions : List (Nat × TenantAction)) {key : Nat} {beacon : Beacon}
    (present : (begun.run actions).tenants key = some (.publishing beacon)) :
    (begun.run actions).Upholds book key beacon :=
  (begins.isSound.run actions).upholds present

/-! ## A contended port -/

/-- A publisher and two beacons for one port; the settings of the second beacon are refused. -/
def contended : Tenancy Network.fabric where
  state := {}
  tenants
    | 0 => some (.serving { role := .publisher, endpoint := .any 20000 })
    | 1 => some (.publishing { port := 20000, interval := .ofMillis 10 })
    | 2 => some (.publishing
        { port := 20000, interval := .ofMillis 10, options := { highWaterMark := 0 } })
    | _ => none

theorem contended_begins : contended.Begins Network.portBook where
  intact := ⟨nofun, List.nodup_nil, rfl, nofun⟩
  free _ := rfl
  fresh key tenant present := by
    match key with
    | 0 =>
        cases present
        have created : Broadcaster.create (.ofPort 20000 {}) none =
            .ok ⟨{ role := .publisher, endpoint := .any 20000 }⟩ := rfl
        exact .broadcaster created
    | 1 =>
        cases present
        exact .beacon 20000 _ _ _ _
    | 2 =>
        cases present
        exact .beacon 20000 _ _ _ _
    | _ + 3 => cases present

/-- The beacon gets no thread and then one, is refused to others, ticks and gives up the port. -/
def contention : List (Nat × TenantAction) :=
  [(1, .start (.error "no memory")), (1, .start (.ok ())), (0, .start (.ok ())),
    (1, .beginTick), (1, .endTick), (1, .stop)]

theorem beacons_run_on_held_ports_after_contention :
    contended.Begins Network.portBook ∧
      (contended.run contention).tenants 1 =
        some (.publishing { port := 20000, interval := .ofMillis 10, published := 1 }) ∧
      (contended.run contention).Upholds Network.portBook 1
        { port := 20000, interval := .ofMillis 10, published := 1 } :=
  ⟨contended_begins, rfl, beacons_run_on_held_ports contended_begins contention rfl⟩

/--
A beacon with refused options never gets to bind the port that another role
holds, a beacon that gets no thread is not started on a port that was freed,
and a full count goes round.
-/
theorem starts_and_counts_have_exceptions :
    ((contended.run [(0, .start (.ok ()))]).HoldsPort Network.portBook 0 20000 ∧
      (contended.run [(0, .start (.ok ()))]).tenants 2 = some (.publishing
        { port := 20000, interval := .ofMillis 10, options := { highWaterMark := 0 } }) ∧
      ∀ reason, ((contended.run [(0, .start (.ok ()))]).perform 2 (.start (.ok ()))).1 ≠
        .error (.link (.bindFailed reason))) ∧
    ((contended.run [(0, .start (.ok ())), (0, .stop)]).perform 1 (.start (.error "none"))).1 =
      .error (.worker "heartbeat publisher: none") ∧
    ∃ count full wrapped,
      ((contended.run [(1, .start (.ok ()))]).run (wholeTicks 1 count)).tenants 1 =
        some (.publishing full) ∧
      (((contended.run [(1, .start (.ok ()))]).run (wholeTicks 1 count)).run
        (wholeTicks 1 1)).tenants 1 = some (.publishing wrapped) ∧
      wrapped.published < full.published := by
  refine ⟨⟨⟨_, ⟨0⟩, rfl, rfl, rfl, rfl⟩, rfl, fun reason failed => ?_⟩, rfl, ?_⟩
  · have answer : ((contended.run [(0, .start (.ok ()))]).perform 2 (.start (.ok ()))).1 =
        .error (.link (.invalidSettings "High water mark must be greater than 0")) := rfl
    cases answer.symm.trans failed
  · have sound := contended_begins.isSound.run [(1, .start (.ok ()))]
    obtain ⟨started, present, running, quiet⟩ :
        ∃ started, (contended.run [(1, .start (.ok ()))]).tenants 1 = some (.publishing started) ∧
          started.running = true ∧ started.IsQuiet :=
      ⟨_, rfl, rfl, by rintro publisher message ⟨⟩⟩
    obtain ⟨count, full, wrapped, isFull, isWrapped, most, least⟩ :=
      sound.count_goes_round present running quiet
    refine ⟨count, full, wrapped, isFull, isWrapped, ?_⟩
    rw [most, least]
    decide

end Tenancy

end TaskLink
