import TaskLink.Session.Monitor
import TaskLink.Proofs.Messaging.Ownership
import TaskLink.Proofs.Messaging.SubscriberReads

/-!
# Rounds of a heartbeat monitor

A monitor goes through its rounds, and messages arrive between them.  Every
round empties the inbox but judges only the newest message it finds there, so
what the monitor keeps depends on how the messages were grouped: a live
heartbeat that is followed by a dead one before the next round is never seen.
-/

namespace TaskLink

/-- The last of some messages that reports a running session, as text. -/
def Heartbeat.lastAlive? (messages : List ByteArray) : Option String :=
  ((messages.map decodeLenient).filter isAlive).getLast?

/-- What is left of messages of which only the newest of every group is read. -/
def newestOfEach (groups : List (List Parcel)) : List ByteArray :=
  groups.filterMap fun group => group.getLast?.map Parcel.payload

theorem Heartbeat.lastAlive?_append (earlier later : List ByteArray) :
    lastAlive? (earlier ++ later) = (lastAlive? later).or (lastAlive? earlier) := by
  unfold lastAlive?
  rw [List.map_append, List.filter_append, List.getLast?_append]

theorem newestOfEach_concat (groups : List (List Parcel)) (group : List Parcel) :
    newestOfEach (groups ++ [group]) =
      newestOfEach groups ++ (group.getLast?.map Parcel.payload).toList := by
  rw [newestOfEach, List.filterMap_append]
  cases newest : group.getLast? <;> simp [newestOfEach, newest]

theorem newestOfEach_of_apart {groups : List (List Parcel)}
    (apart : ∀ group ∈ groups, group.length ≤ 1) :
    newestOfEach groups = groups.flatten.map Parcel.payload := by
  induction groups with
  | nil => rfl
  | cons group rest ih =>
      have later := ih fun other member => apart other (List.mem_cons_of_mem group member)
      unfold newestOfEach at later ⊢
      match group, apart group List.mem_cons_self with
      | [], _ => exact later
      | [parcel], _ => exact congrArg (parcel.payload :: ·) later

theorem Vigil.latest_hear (vigil : Vigil) (message : ByteArray) (now : Nat) :
    (vigil.hear message now).latest = (Heartbeat.lastAlive? [message]).or vigil.latest := by
  unfold hear Heartbeat.lastAlive?
  rw [List.map_singleton, List.filter_cons]
  dsimp only
  split <;> rfl

theorem Lifecycle.exists_openOn (lifecycle : Lifecycle) {context : ContextId} {network : Network}
    (permitted : network.openFault? context lifecycle.role lifecycle.endpoint lifecycle.options =
      none) :
    ∃ id connected after,
      lifecycle.openOn Network.fabric context network = (.ok id, connected, after) := by
  obtain ⟨id, after, opened⟩ := Network.exists_openSocket_iff.mpr permitted
  obtain ⟨id, after, -, same⟩ | ⟨fault, after, refused, -⟩ :=
    openOn_cases Network.fabric lifecycle context network
  · exact ⟨id, _, after, same⟩
  · cases opened.symm.trans refused

/-! ## Watches -/

structure Watch where
  monitor : HeartbeatMonitor
  network : Network

namespace Watch

def lifecycle (watch : Watch) : Lifecycle :=
  watch.monitor.subscriber.lifecycle

def round (watch : Watch) : Watch :=
  match watch.monitor.watch Network.fabric watch.network with
  | (monitor, network) => ⟨monitor, network⟩

/-- The monitor goes round after groups of messages, whatever else happens on the network. -/
inductive Runs (begun : Watch) : List (List Parcel) → Watch → Prop where
  | start : Runs begun [] begun
  | next {groups : List (List Parcel)} {group : List Parcel} {watch : Watch} {id : SocketId}
      {network : Network} (earlier : Runs begun groups watch)
      (held : watch.lifecycle.socket = some id)
      (brings : Network.Brings watch.network network id group) :
      Runs begun (groups ++ [group]) (round { watch with network := network })

structure Listens (watch : Watch) (id : SocketId) (context : ContextId) (inbox : List Parcel) :
    Prop where
  running : watch.monitor.running = true
  role : watch.lifecycle.role = .subscriber
  borrowed : watch.lifecycle.context = some context
  held : watch.lifecycle.socket = some id
  tuned : watch.lifecycle.options.areRefused .subscriber = false
  connectable : watch.lifecycle.endpoint.isConnectable = true
  isNamed : watch.network.IsNamed
  usable : watch.network.usable id =
    .ok { Network.freshSocket context .subscriber watch.lifecycle.endpoint with inbox := inbox }

namespace Listens

variable {watch : Watch} {id : SocketId} {context : ContextId} {inbox : List Parcel}

theorem isSubscribed (listens : watch.Listens id context inbox) :
    watch.network.IsSubscribed id
      { Network.freshSocket context .subscriber watch.lifecycle.endpoint with inbox := inbox } :=
  ⟨listens.usable, rfl, rfl⟩

/-- A subscriber that was just connected has an empty inbox. -/
theorem of_openOn {monitor : HeartbeatMonitor} {lifecycle connected : Lifecycle}
    {network after : Network} (opened : lifecycle.openOn Network.fabric context network =
      (.ok id, connected, after))
    (role : lifecycle.role = .subscriber) (borrowed : lifecycle.context = some context)
    (isNamed : network.IsNamed) (running : monitor.running = true)
    (subscriber : monitor.subscriber = ⟨connected⟩) :
    Listens ⟨monitor, after⟩ id context [] := by
  obtain ⟨fresh, after', opening, same⟩ | ⟨fault, after', -, same⟩ :=
    Lifecycle.openOn_cases Network.fabric lifecycle context network
  · cases same.symm.trans opened
    rw [role] at opening
    obtain ⟨alive, tuned, connectable⟩ := Network.openFault?_subscriber.mp
      (Network.exists_openSocket_iff.mp ⟨id, after, opening⟩)
    obtain ⟨named, terminated, found, -⟩ := isNamed.openSocket SocketRole.noConfusion opening
    have usable : after.usable id =
        .ok (Network.freshSocket context .subscriber lifecycle.endpoint) :=
      Network.usable_eq_ok_iff.mpr ⟨found, by rwa [Network.isTerminated, terminated]⟩
    obtain ⟨_, limit, vigil, _⟩ := monitor
    cases subscriber
    exact ⟨running, role, borrowed, rfl, tuned, connectable, named, usable⟩
  · cases same.symm.trans opened

theorem brings (listens : watch.Listens id context inbox) {network : Network}
    {messages : List Parcel} (brings : Network.Brings watch.network network id messages) :
    Listens { watch with network := network } id context (inbox ++ messages) :=
  { listens with
    isNamed := brings.isNamed listens.isNamed
    usable := brings.usable _ listens.usable }

theorem noting (listens : watch.Listens id context inbox) (vigil : Vigil) :
    Listens ⟨{ watch.monitor with vigil := vigil }, watch.network⟩ id context inbox :=
  { listens with }

/-- Listening empties the inbox, and the newest message is heard. -/
theorem listen (listens : watch.Listens id context inbox) :
    ∃ monitor network, watch.monitor.listen Network.fabric watch.network = (monitor, network) ∧
      Listens ⟨monitor, network⟩ id context [] ∧
      monitor.vigil.latest =
        (Heartbeat.lastAlive? (inbox.getLast?.map Parcel.payload).toList).or
          watch.monitor.vigil.latest := by
  obtain ⟨network, received, replaces⟩ :=
    Subscriber.receiveLatest_eq listens.held listens.isSubscribed (some monitorSlice)
  have empty : Listens ⟨watch.monitor, network⟩ id context [] :=
    { listens with
      isNamed := replaces.isNamed listens.isNamed
      usable := replaces.usable listens.usable rfl }
  unfold HeartbeatMonitor.listen
  rw [received]
  cases newest : inbox.getLast? with
  | none => exact ⟨watch.monitor, network, rfl, empty, rfl⟩
  | some parcel =>
      exact ⟨_, network, rfl, empty.noting _,
        watch.monitor.vigil.latest_hear parcel.payload network.clock⟩

/-- A connected subscriber can be replaced by another, whose inbox is empty. -/
theorem renew (listens : watch.Listens id context inbox) :
    ∃ current lifecycle network,
      watch.lifecycle.renew Network.fabric watch.network = (.ok current, lifecycle, network) ∧
      Listens ⟨{ watch.monitor with subscriber := ⟨lifecycle⟩ }, network⟩ current context [] := by
  obtain ⟨-, alive⟩ := Network.usable_eq_ok_iff.mp listens.usable
  let closed := watch.network.closeSocket id
  have renewed : watch.lifecycle.renew Network.fabric watch.network =
      Lifecycle.openOn Network.fabric { watch.lifecycle with socket := none } context closed := by
    rw [Lifecycle.renew_of_context listens.borrowed, Lifecycle.close, listens.held]
    rfl
  have permitted : closed.openFault? context watch.lifecycle.role watch.lifecycle.endpoint
      watch.lifecycle.options = none := by
    rw [listens.role]
    exact Network.openFault?_subscriber.mpr ⟨alive, listens.tuned, listens.connectable⟩
  obtain ⟨current, connected, after, opened⟩ :=
    Lifecycle.exists_openOn { watch.lifecycle with socket := none } permitted
  exact ⟨current, connected, after, renewed.trans opened,
    of_openOn opened listens.role listens.borrowed (listens.isNamed.closeSocket id)
      listens.running rfl⟩

/-- After judging, the monitor listens still, maybe on another socket; what it has kept stays. -/
theorem judge (listens : watch.Listens id context []) :
    ∃ current monitor network,
      watch.monitor.judge Network.fabric watch.network = (monitor, network) ∧
      Listens ⟨monitor, network⟩ current context [] ∧
      monitor.vigil.latest = watch.monitor.vigil.latest := by
  unfold HeartbeatMonitor.judge
  split
  · obtain ⟨fresh, lifecycle, network, renewed, again⟩ := listens.renew
    rw [show watch.monitor.subscriber.lifecycle.renew Network.fabric watch.network = _ from renewed]
    exact ⟨fresh, _, network, rfl, again.noting _, rfl⟩
  · exact ⟨id, watch.monitor, watch.network, rfl, listens, rfl⟩

/-- A round empties the inbox, and of what was there only the newest message is heard. -/
theorem round (listens : watch.Listens id context inbox) :
    ∃ current, watch.round.Listens current context [] ∧
      watch.round.monitor.vigil.latest =
        (Heartbeat.lastAlive? (inbox.getLast?.map Parcel.payload).toList).or
          watch.monitor.vigil.latest := by
  obtain ⟨monitor, network, listened, empty, latest⟩ := listens.listen
  obtain ⟨current, monitor', network', judged, again, kept⟩ := empty.judge
  have same : watch.round = ⟨monitor', network'⟩ := by
    unfold Watch.round HeartbeatMonitor.watch
    rw [listens.running, listened]
    dsimp only
    rw [judged]
    rfl
  rw [same]
  exact ⟨current, again, kept.trans latest⟩

end Listens

/-! ## Starting -/

/-- A monitor that was started listens, and has kept nothing. -/
theorem listens_of_start {spawned : Except String Unit} {context : ContextId} {endpoint : Endpoint}
    {options : SocketOptions} {limit : Option Duration} {network begun : Network}
    {monitor : HeartbeatMonitor} (isNamed : network.IsNamed)
    (started :
      HeartbeatMonitor.start Network.fabric spawned context endpoint options limit network =
        (.ok monitor, begun)) :
    (∃ id, Listens ⟨monitor, begun⟩ id context []) ∧ monitor.vigil.latest = none := by
  unfold HeartbeatMonitor.start at started
  split at started
  · cases started
  · next subscriber created =>
      unfold Subscriber.create at created
      split at created
      · cases created
      · cases created
        dsimp only at started
        split at started
        · cases started
        · next id connected _ opened =>
            split at started
            · cases started
              exact ⟨⟨id, Listens.of_openOn opened rfl rfl isNamed rfl rfl⟩, rfl⟩
            · cases started

theorem exists_start {context : ContextId} {endpoint : Endpoint} {options : SocketOptions}
    {network : Network}
    (valid : ({ endpoint := endpoint, options := options } : ClientSettings).validate.isOk = true)
    (permitted : network.openFault? context .subscriber endpoint options = none)
    (limit : Option Duration) :
    ∃ monitor begun,
      HeartbeatMonitor.start Network.fabric (.ok ()) context endpoint options limit network =
        (.ok monitor, begun) := by
  let lifecycle : Lifecycle :=
    { role := .subscriber, endpoint := endpoint, options := options, shared := some context }
  have created : Subscriber.create { endpoint := endpoint, options := options } (some context) =
      .ok ⟨lifecycle⟩ := by
    unfold Subscriber.create
    split
    · next error refused =>
        rw [refused] at valid
        cases valid
    · rfl
  obtain ⟨id, connected, after, opened⟩ := Lifecycle.exists_openOn
    { lifecycle with context := some context, ownership := .borrowed } permitted
  have starting : lifecycle.start Network.fabric network = (.ok id, connected, after) := opened
  unfold HeartbeatMonitor.start
  rw [created]
  dsimp only
  rw [starting]
  exact ⟨_, _, rfl⟩

/-! ## Runs -/

/-- Throughout a run the monitor keeps the last live one of the messages that it heard. -/
theorem Runs.listens {begun watch : Watch} {groups : List (List Parcel)} {context : ContextId}
    (run : Runs begun groups watch) (start : ∃ id, begun.Listens id context [])
    (fresh : begun.monitor.vigil.latest = none) :
    (∃ id, watch.Listens id context []) ∧
      watch.monitor.vigil.latest = Heartbeat.lastAlive? (newestOfEach groups) := by
  -- The socket that messages go to may be another one after every round.
  induction run with
  | start => exact ⟨start, fresh⟩
  | @next groups group watch id network earlier held brings ih =>
      obtain ⟨⟨current, listens⟩, latest⟩ := ih
      cases held.symm.trans listens.held
      obtain ⟨next, again, heard⟩ := (listens.brings brings).round
      refine ⟨⟨next, again⟩, ?_⟩
      rw [heard, newestOfEach_concat, Heartbeat.lastAlive?_append, ← latest]
      rfl

/-- Of messages that arrive in different rounds the last live one is kept. -/
theorem Runs.latest_of_apart {begun watch : Watch} {groups : List (List Parcel)}
    {context : ContextId} (run : Runs begun groups watch)
    (start : ∃ id, begun.Listens id context []) (fresh : begun.monitor.vigil.latest = none)
    (apart : ∀ group ∈ groups, group.length ≤ 1) :
    watch.monitor.vigil.latest =
      Heartbeat.lastAlive? (groups.flatten.map Parcel.payload) := by
  rw [(run.listens start fresh).2, newestOfEach_of_apart apart]

/-! ## Messages in groups -/

def arrive (watch : Watch) (messages : List Parcel) : Watch :=
  match watch.lifecycle.socket with
  | some id => { watch with network := watch.network.deliverAll messages id }
  | none => watch

/-- The monitor goes round after every group of messages, and nobody else acts. -/
def play (watch : Watch) (groups : List (List Parcel)) : Watch :=
  groups.foldl (fun watch group => (watch.arrive group).round) watch

theorem Runs.play {begun watch : Watch} {past : List (List Parcel)} {id : SocketId}
    {context : ContextId} (run : Runs begun past watch) (listens : watch.Listens id context [])
    (groups : List (List Parcel)) : Runs begun (past ++ groups) (watch.play groups) := by
  induction groups generalizing past watch id with
  | nil => rwa [List.append_nil]
  | cons group rest ih =>
      have brings := Network.Brings.deliverAll watch.network group id
      have arrived : watch.arrive group =
          { watch with network := watch.network.deliverAll group id } := by
        rw [arrive, listens.held]
      obtain ⟨next, again, -⟩ := (listens.brings brings).round
      have later := ih (run.next listens.held brings) again
      rw [List.append_assoc] at later
      unfold Watch.play
      rw [List.foldl_cons, arrived]
      exact later

/-- A monitor can be started where it is permitted, and then messages can arrive in any groups. -/
theorem exists_runs (context : ContextId) (endpoint : Endpoint) (options : SocketOptions)
    {network : Network} (isNamed : network.IsNamed)
    (valid : ({ endpoint := endpoint, options := options } : ClientSettings).validate.isOk = true)
    (permitted : network.openFault? context .subscriber endpoint options = none)
    (limit : Option Duration) (groups : List (List Parcel)) :
    ∃ monitor begun watch,
      HeartbeatMonitor.start Network.fabric (.ok ()) context endpoint options limit network =
          (.ok monitor, begun) ∧
        Runs ⟨monitor, begun⟩ groups watch := by
  obtain ⟨monitor, begun, started⟩ := exists_start valid permitted limit
  obtain ⟨⟨id, listens⟩, -⟩ := listens_of_start isNamed started
  exact ⟨monitor, begun, _, started, Runs.start.play listens groups⟩

/--
However messages are grouped, and whatever else happens on the network, a
monitor has kept the last live one of those that were the newest of their
group; none is left to be read.
-/
theorem kept_is_last_alive_of_newest {spawned : Except String Unit} {context : ContextId}
    {endpoint : Endpoint} {options : SocketOptions} {limit : Option Duration}
    {network begun : Network} {monitor : HeartbeatMonitor} {groups : List (List Parcel)}
    {watch : Watch} (isNamed : network.IsNamed)
    (started :
      HeartbeatMonitor.start Network.fabric spawned context endpoint options limit network =
        (.ok monitor, begun))
    (run : Runs ⟨monitor, begun⟩ groups watch) :
    watch.monitor.vigil.latest = Heartbeat.lastAlive? (newestOfEach groups) ∧
      ∃ id, watch.lifecycle.socket = some id ∧ watch.network.backlog id = 0 := by
  obtain ⟨listens, fresh⟩ := listens_of_start isNamed started
  obtain ⟨⟨id, again⟩, latest⟩ := run.listens listens fresh
  exact ⟨latest, id, again.held, again.isSubscribed.backlog_eq⟩

def beat (status : String) : Parcel :=
  ⟨⟨0⟩, ("\x7b\"status\":\"" ++ status ++ "\"\x7d").toUTF8, []⟩

theorem isNamed_empty : ({} : Network).IsNamed := by
  rintro key ⟨⟩

theorem kept_is_last_alive_of_newest_in_two_rounds :
    ∃ monitor begun watch,
      ({} : Network).IsNamed ∧
      HeartbeatMonitor.start Network.fabric (.ok ()) ⟨0⟩ ⟨"localhost", 7110⟩ {} none {} =
        (.ok monitor, begun) ∧
      Runs ⟨monitor, begun⟩ [[beat "lost", beat "first"], [beat "x"]] watch ∧
      watch.monitor.vigil.latest = some "\x7b\"status\":\"first\"\x7d" := by
  obtain ⟨monitor, begun, watch, started, run⟩ :=
    exists_runs ⟨0⟩ ⟨"localhost", 7110⟩ {} isNamed_empty (by decide +kernel) (by decide +kernel)
      none [[beat "lost", beat "first"], [beat "x"]]
  refine ⟨monitor, begun, watch, isNamed_empty, started, run, ?_⟩
  rw [(kept_is_last_alive_of_newest isNamed_empty started run).1]
  decide +kernel

/-- The last live one of all messages is missed if a dead one follows it in the same round. -/
theorem live_before_dead_is_missed :
    ∃ monitor begun watch,
      HeartbeatMonitor.start Network.fabric (.ok ()) ⟨0⟩ ⟨"localhost", 7110⟩ {} none {} =
        (.ok monitor, begun) ∧
      Runs ⟨monitor, begun⟩ [[beat "first"], [beat "second", beat "lost"]] watch ∧
      watch.monitor.vigil.latest = some "\x7b\"status\":\"first\"\x7d" ∧
      Heartbeat.lastAlive? ([beat "first", beat "second", beat "lost"].map Parcel.payload) =
        some "\x7b\"status\":\"second\"\x7d" := by
  obtain ⟨monitor, begun, watch, started, run⟩ :=
    exists_runs ⟨0⟩ ⟨"localhost", 7110⟩ {} isNamed_empty (by decide +kernel) (by decide +kernel)
      none [[beat "first"], [beat "second", beat "lost"]]
  obtain ⟨listens, fresh⟩ := listens_of_start isNamed_empty started
  refine ⟨monitor, begun, watch, started, run, ?_, by decide +kernel⟩
  rw [(run.listens listens fresh).2]
  decide +kernel

end Watch

end TaskLink
