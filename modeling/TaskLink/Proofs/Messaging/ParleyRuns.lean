import TaskLink.Proofs.Messaging.ParleyCalls

/-!
# Runs of the request client

A run is any row of operations on one client, among which its peer moves.  A
client that stood well before an operation does so after it.
-/

namespace TaskLink

/-! ## Operations -/

def Parley.source (asked : Bool) : Option (Preempt Parley) :=
  if asked then some ask else none

theorem Parley.eq_ask_of_source {asked : Bool} (preempt : Preempt Parley)
    (isSource : Parley.source asked = some preempt) : preempt = Parley.ask := by
  unfold source at isSource
  split at isSource
  · exact (Option.some.inj isSource).symm
  · cases isSource

inductive ClientOperation where
  | manage (operation : LifecycleOperation)
  | watch (asked : Bool)
  | callBytes (fuel : Nat) (call : Call)
  | call (fuel : Nat) (call : Call)
  | peer (move : PeerMove)

def ClientOperation.request : ClientOperation → Option Call
  | .callBytes _ request | .call _ request => some request
  | _ => none

namespace Conversation

/-- What an operation comes to; nothing is returned by a call that its fuel does not settle. -/
def perform (conversation : Conversation) :
    ClientOperation → Option (Except LinkError Unit × Conversation)
  | .manage operation =>
      match operation.perform Parley.fabric conversation.client.lifecycle conversation.parley with
      | (outcome, lifecycle, parley) =>
          some (outcome, ⟨{ conversation.client with lifecycle := lifecycle }, parley⟩)
  | .watch asked =>
      some (.ok (), ⟨{ conversation.client with preempt := Parley.source asked },
        conversation.parley⟩)
  | .callBytes fuel call =>
      (conversation.client.callBytes Parley.fabric fuel call conversation.parley).map
        fun (result, client, parley) => (result.map fun _ => (), ⟨client, parley⟩)
  | .call fuel call =>
      (conversation.client.call Parley.fabric fuel call conversation.parley).map
        fun (result, client, parley) => (result.map fun _ => (), ⟨client, parley⟩)
  | .peer move => some (.ok (), ⟨conversation.client, move.perform conversation.parley⟩)

/-- A new client, and nothing has happened around it. -/
structure Begins (conversation : Conversation) : Prop where
  client : ∃ settings shared asked,
    Requester.create settings shared (Parley.source asked) = .ok conversation.client
  parley : conversation.parley.Begins

end Conversation

structure Entry where
  operation : ClientOperation
  outcome : Except LinkError Unit
  before : Conversation
  after : Conversation

structure Account where
  now : Conversation
  entries : List Entry := []

namespace Account

def step (account : Account) (operation : ClientOperation) : Option Account :=
  (account.now.perform operation).map fun (outcome, after) =>
    ⟨after, ⟨operation, outcome, account.now, after⟩ :: account.entries⟩

def run : List ClientOperation → Account → Option Account
  | [], account => some account
  | operation :: rest, account => (account.step operation).bind (run rest)

end Account

/-! ## Standing -/

namespace Conversation

variable {conversation : Conversation} {held : Option (SocketId × Stand)}

theorem Begins.stands (begins : conversation.Begins) : conversation.Stands none := by
  obtain ⟨⟨settings, shared, asked, created⟩, parley⟩ := begins
  unfold Requester.create at created
  have isClient : conversation.client.lifecycle.role = .requester ∧
      conversation.client.lifecycle.socket = none ∧
      conversation.client.preempt = Parley.source asked := by
    split at created
    · cases created
    · rw [← Except.ok.inj created]
      exact ⟨rfl, rfl, rfl⟩
  refine ⟨parley.attends, isClient.1, isClient.2.1.symm, ?_, ?_⟩
  · rintro id stand ⟨⟩
  · intro preempt isSource
    rw [isClient.2.2] at isSource
    exact Parley.eq_ask_of_source preempt isSource

theorem Begins.resends (begins : conversation.Begins) :
    conversation.client.lifecycle.resends = 0 := by
  obtain ⟨settings, shared, asked, created⟩ := begins.client
  unfold Requester.create at created
  split at created
  · cases created
  · rw [← Except.ok.inj created]
    rfl

theorem Stands.of_opens (stands : conversation.Stands held) {lifecycle opened : Lifecycle}
    {middle after : Parley} {result : Except LinkError SocketId} {deeds : List ParleyEvent}
    {held' : Option (SocketId × Stand)} (first : conversation.parley.Leads held' deeds middle)
    (opens : middle.Opens lifecycle result opened after) :
    ∃ held' deeds, conversation.parley.Leads held' deeds after ∧
      Conversation.Stands ⟨{ conversation.client with lifecycle := opened }, after⟩ held' := by
  cases opens with
  | ready socket role resends leads =>
      refine ⟨_, _, first.trans leads, leads.attends, role, socket.symm, ?_, stands.source⟩
      rintro id stand ⟨⟩
      rfl
  | failed socket role resends leads =>
      refine ⟨_, _, first.trans leads, leads.attends, role, socket.symm, ?_, stands.source⟩
      rintro id stand ⟨⟩

/-- Whatever a call comes to, the client stands well after it. -/
theorem Calls.stands {call : Call} {result : Except LinkError ByteArray}
    {client : Requester Parley} {after : Parley} (stands : conversation.Stands held)
    (calls : conversation.Calls held call (result, client, after)) :
    ∃ held' deeds, conversation.parley.Leads held' deeds after ∧
      Conversation.Stands ⟨client, after⟩ held' := by
  cases calls with
  | tooLarge unsent => exact ⟨held, [], stands.attends.leads, stands⟩
  | stopped unsent => exact ⟨held, [], stands.attends.leads, stands⟩
  | unsent isHeld sends refused =>
      cases refused with
      | refused socket role leads =>
          refine ⟨_, _, leads, leads.attends, role, socket.symm, ?_, stands.source⟩
          rintro id stand ⟨⟩
          rfl
      | lost socket role leads =>
          refine ⟨_, _, leads, leads.attends, role, socket.symm, ?_, stands.source⟩
          rintro id stand ⟨⟩
  | @sent id fresh stand sender lifecycle middle _ _ isHeld sends accepted concludes =>
      have sending : ∃ deeds, conversation.parley.Leads (some (fresh, .awaiting)) deeds middle ∧
          sender.role = .requester ∧ sender.socket = some fresh := by
        have socket := stands.socket
        subst isHeld
        cases accepted with
        | direct isReady leads => exact ⟨_, leads, stands.role, socket.symm⟩
        | resent socket role resends leads => exact ⟨_, leads, role, socket⟩
      obtain ⟨deeds, leads, role, socket⟩ := sending
      cases concludes with
      | givenUp givesUp socket role resends waits =>
          refine ⟨_, _, leads.trans waits, waits.attends, role, socket.symm, ?_, stands.source⟩
          rintro id stand ⟨⟩
          trivial
      | replied reads answered =>
          refine ⟨_, _, leads.trans reads, reads.attends, role, socket.symm, ?_, stands.source⟩
          rintro id stand ⟨⟩
          rfl
      | failed opens => exact stands.of_opens leads opens

/-- One operation, whatever it is, leaves the client standing well. -/
theorem Stands.perform (stands : conversation.Stands held) {operation : ClientOperation}
    {outcome : Except LinkError Unit} {after : Conversation}
    (performed : conversation.perform operation = some (outcome, after)) :
    ∃ held' deeds, conversation.parley.Leads held' deeds after.parley ∧ after.Stands held' := by
  cases operation with
  | manage operation =>
      unfold Conversation.perform at performed
      dsimp only at performed
      rcases operation.perform_parley stands.role stands.attends stands.socket with
        ⟨-, -, same⟩ | ⟨-, destroyed, after, same, socket, role, -, leads⟩ |
        ⟨-, -, result, opened, after, opens, same⟩
      · rw [same] at performed
        cases performed
        exact ⟨held, [], stands.attends.leads, stands⟩
      · rw [same] at performed
        cases performed
        refine ⟨_, _, leads, leads.attends, role, socket.symm, ?_, stands.source⟩
        rintro id stand ⟨⟩
      · rw [same] at performed
        cases performed
        exact stands.of_opens stands.attends.leads opens
  | watch asked =>
      cases performed
      exact ⟨held, [], stands.attends.leads, stands.attends, stands.role, stands.socket,
        stands.whole, Parley.eq_ask_of_source⟩
  | callBytes fuel call =>
      obtain ⟨⟨result, client, parley⟩, returned, same⟩ := Option.map_eq_some_iff.mp performed
      cases same
      exact (stands.calls returned).stands stands
  | call fuel call =>
      obtain ⟨⟨result, client, parley⟩, called, same⟩ := Option.map_eq_some_iff.mp performed
      cases same
      obtain ⟨⟨reply, client, parley⟩, returned, same⟩ := Option.map_eq_some_iff.mp called
      cases same
      exact (stands.calls returned).stands stands
  | peer move =>
      cases performed
      have leads := move.perform_leads stands.attends
      exact ⟨held, [], leads, leads.attends, stands.role, stands.socket, stands.whole,
        stands.source⟩

end Conversation

/-- A client that stood well does so after every run. -/
theorem Account.run_stands {operations : List ClientOperation} {account reached : Account}
    {held : Option (SocketId × Stand)} (stands : account.now.Stands held)
    (ran : run operations account = some reached) :
    ∃ held', reached.now.Stands held' := by
  induction operations generalizing account held with
  | nil =>
      cases ran
      exact ⟨held, stands⟩
  | cons operation rest ih =>
      obtain ⟨middle, stepped, later⟩ := Option.bind_eq_some_iff.mp ran
      obtain ⟨⟨outcome, after⟩, performed, rfl⟩ := Option.map_eq_some_iff.mp stepped
      obtain ⟨held', deeds, -, stands'⟩ := stands.perform performed
      exact ih stands' later

end TaskLink
