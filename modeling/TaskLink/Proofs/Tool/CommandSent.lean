import TaskLink.Proofs.Configuration.Tiers
import TaskLink.Proofs.Session.AcceptedConfigurations
import TaskLink.Proofs.Session.CommandEnvelope
import TaskLink.Proofs.Session.SentCommands
import TaskLink.Proofs.Tool.CommandLines
import TaskLink.Tool.Rehearsal

/-!
# The command that the tool sends

From the command line, the environment and the configuration file to the one
message of a run: who it is for, and with which parameters.  What is said holds
of every run that ends, over every fabric.

The parameters are sent as the reader holds them.  It keeps whole numbers of 64
bits; every other number becomes a double in one operation, not always the
nearest one, and is written with the digits of that double.  So the message is
shown to be read back as it was only if all its numbers are whole and it is not
nested too deep for the reader, and a fraction may be sent as another one.
-/

namespace TaskLink

open JsonTree (AreSorted find? insertMember)
open TaskLink.Configuration (topmost layered)

/-! ## Parameters with a name -/

namespace JsonTree

/-- Members that have all keys of the defaults are not changed by them. -/
theorem mergeMembers_of_covers {defaults members : List (String × Json)}
    (sortedDefaults : AreSorted defaults) (sorted : AreSorted members)
    (covers : ∀ key, find? key members = none → find? key defaults = none) :
    mergeMembers defaults members = members := by
  apply eq_of_find? (mergeMembers_sorted sortedDefaults members) sorted
  intro key
  rw [find?_mergeMembers sorted]
  cases found : find? key members with
  | none => exact covers key found
  | some value => rfl

end JsonTree

/-- The members of parameters once the name of a command, if it has one, is among them. -/
inductive IsNamed (given : List (String × Json)) :
    Option String → List (String × Json) → Prop where
  | unnamed : IsNamed given none given
  | named {name : String} {parameters : List (String × Json)} (sorted : AreSorted parameters)
      (command : find? "command" parameters = some (.text name))
      (others : ∀ key, key ≠ "command" → find? key parameters = find? key given) :
      IsNamed given (some name) parameters

theorem isNamed_insertMember {given : List (String × Json)} (sorted : AreSorted given)
    (name : String) : IsNamed given (some name) (insertMember "command" (.text name) given) := by
  apply IsNamed.named
  · exact sorted.insertMember "command" _
  · exact JsonTree.find?_insertMember_self "command" _ given
  · intro key different
    exact JsonTree.find?_insertMember_ne different _ given

/-- The parameters of the tool's command have its name, and the defaults add nothing to them. -/
theorem mergeParameters_commandParameters {options : SessionOptions}
    {given : List (String × Json)} (sorted : AreSorted given)
    (isGiven : options.taskParameters = .object given) (name : Option String) :
    ∃ parameters, IsNamed given name parameters ∧
      mergeParameters options.taskParameters (commandParameters options name) =
        .object parameters := by
  cases name with
  | none =>
      refine ⟨given, .unnamed, ?_⟩
      rw [commandParameters, isGiven, mergeParameters,
        JsonTree.mergeMembers_of_covers sorted sorted fun key missing => missing]
  | some name =>
      refine ⟨_, isNamed_insertMember sorted name, ?_⟩
      rw [commandParameters, isGiven, Json.withMember, mergeParameters,
        JsonTree.mergeMembers_of_covers sorted (sorted.insertMember "command" _)]
      intro key missing
      by_cases same : key = "command"
      · rw [same, JsonTree.find?_insertMember_self] at missing
        cases missing
      · rwa [JsonTree.find?_insertMember_ne same] at missing

theorem isCarried_commandParameters {options : SessionOptions} {given : List (String × Json)}
    (isGiven : options.taskParameters = .object given) (carried : IsCarried (.object given))
    (name : Option String) : IsCarried (commandParameters options name) := by
  cases name with
  | none => rwa [commandParameters, isGiven]
  | some name =>
      have isName : IsCarried (.object [("command", .text name)]) := by
        constructor
        · exact .object (List.pairwise_singleton _ _) (by simpa using .text name)
        · change 1 + 2 ≤ jsonDepthLimit
          decide
      rw [commandParameters, isGiven]
      exact isCarried_mergeParameters carried isName

/-! ## Runs -/

/-- The members of an object that is read are sorted. -/
theorem Json.areSorted_of_read? {text : String} {members : List (String × Json)}
    (isRead : Json.read? text = some (.object members)) : AreSorted members := by
  obtain ⟨raw, -, same⟩ := Json.exists_written_of_read? isRead
  exact JsonTree.areSorted_of_canonical same.symm

/-- The options of the tool are those that a configuration describes with its two objects. -/
theorem toolOptions_eq_ok {configuration : Configuration} {options : SessionOptions}
    (isOptions : toolOptions configuration = .ok options) :
    ∃ given user,
      Json.read? configuration.session.taskParameters = some (.object given) ∧
        Json.read? configuration.session.userInfo = some (.object user) ∧
        options = SessionOptions.described configuration (.object given) (.object user) := by
  unfold toolOptions at isOptions
  split at isOptions
  · cases isOptions
  · obtain ⟨given, user, isGiven, isUser, same⟩ | ⟨-, error, same⟩ :=
      SessionOptions.ofConfiguration_cases configuration
    · rw [same] at isOptions
      cases isOptions
      exact ⟨given, user, isGiven, isUser, rfl⟩
    · rw [same] at isOptions
      cases isOptions

section Runs

variable {σ : Type} {base : Fabric σ} {watchers : Watchers (Tapped σ)} {fuel : Nat}
  {s last : Tapped σ}

theorem replyResult_output (identity : SessionIdentity) (reply : Except SessionError Json) :
    ∃ shown, (replyResult identity reply).output = identity.lines ++ shown := by
  cases reply with
  | ok reply => exact ⟨reply.pretty ++ "\n", by simp [replyResult, String.append_assoc]⟩
  | error error => exact ⟨"", by simp [replyResult]⟩

/-- A command that is run sends one envelope of a session that was reached, or nothing. -/
theorem runCommand_sends {options : SessionOptions} {name : Option String} {result : ToolResult}
    (ran : runCommand base.tapping watchers fuel options name s = some (result, last)) :
    last.sent = s.sent ∨
      ∃ session : TaskSession (Tapped σ),
        session.options = options ∧
          options.suppliedIdentity.Identifies options.discovery
            (subscribedHeartbeats base.tapping (base.tapping.newContext s).1
              options.heartbeatSettings)
            (base.tapping.newContext s).2 session.identity ∧
          last.sent = s.sent ++
            [(session.commandEnvelope (commandParameters options name)).compact.toUTF8] ∧
          ∃ shown, result.output = session.identity.lines ++ shown := by
  have reaches {session : TaskSession (Tapped σ)}
      (reached : (TaskSession.bootstrap base.tapping options s).1 = .ok session) :=
    TaskSession.bootstrap_reaches reached
  have unsent := TaskSession.bootstrap_sent base options s
  unfold runCommand at ran
  generalize TaskSession.bootstrap base.tapping options s = bootstrapped at reaches unsent ran
  obtain ⟨reached, middle⟩ := bootstrapped
  cases reached with
  | error error =>
      cases ran
      exact .inl unsent
  | ok session =>
      obtain ⟨isOptions, unwatched, identifies⟩ := reaches rfl
      obtain ⟨⟨reply, after, closing⟩, executed, same⟩ := Option.map_eq_some_iff.mp ran
      cases same
      obtain ⟨sends, bound⟩ := TaskSession.execute_sends unwatched executed
      have closed := TaskSession.close_sent base watchers (bound.watcher.trans unwatched) closing
      dsimp only at unsent
      rcases sends with same | sent
      · exact .inl (closed.trans (same.trans unsent))
      · refine .inr ⟨session, isOptions, identifies, ?_, ?_⟩
        · rw [closed, sent, unsent]
        · rw [← bound.identity]
          exact replyResult_output _ reply

/-- A run that sends anything has loaded a configuration and run a command with its options. -/
theorem runTool_sends {arguments : List String} {flags : ToolFlags} {name : Option String}
    {around : ToolSurroundings} {outcome : ToolOutcome}
    (asks : ToolRequest.ofArguments arguments = .ok (.run flags (.command name)))
    (ran : runTool base.tapping watchers fuel arguments around s = some (outcome, last))
    (sends : last.sent ≠ s.sent) :
    ∃ file options result,
      Configuration.loadBase around.files around.environment around.workingDirectory
          flags.configuration = .ok file ∧
        toolOptions (layered around.environment flags.overrides file) = .ok options ∧
        runCommand base.tapping watchers fuel options name s = some (result, last) ∧
        outcome.output = result.output := by
  rw [runTool, asks] at ran
  dsimp only at ran
  rw [runAction, ToolFlags.loadConfiguration, Configuration.load_eq_map] at ran
  cases loaded : Configuration.loadBase around.files around.environment around.workingDirectory
      flags.configuration with
  | error error =>
      rw [loaded] at ran
      cases ran
      exact absurd rfl sends
  | ok file =>
      rw [loaded] at ran
      simp only [Except.map] at ran
      cases optioned : toolOptions (layered around.environment flags.overrides file) with
      | error error =>
          rw [optioned] at ran
          cases ran
          exact absurd rfl sends
      | ok options =>
          rw [optioned] at ran
          obtain ⟨⟨result, after⟩, performed, same⟩ := Option.map_eq_some_iff.mp ran
          cases same
          refine ⟨file, options, result, rfl, optioned, performed, ?_⟩
          cases failed : result.failure <;> simp [ToolResult.outcome, failed]

end Runs

/-! ## What is stated and what is sent -/

def statedIdentity (arguments : List String) (environment : Environment) (file : Configuration) :
    SessionIdentity where
  sceneKey := topmost some (statedValue? "task_scenepk" arguments)
    (environment.get? "CTRLINK_SCENE_PK") file.session.sceneKey
  slaveRequestId := topmost some (statedValue? "slave_request_id" arguments)
    (environment.get? "CTRLINK_SLAVE_REQUEST_ID") file.session.slaveRequestId

def statedParameters (arguments : List String) (file : Configuration) : String :=
  topmost some (statedValue? "taskparameters" arguments) none file.session.taskParameters

def commandMessage (identity : SessionIdentity) (taskType : String)
    (parameters user : List (String × Json)) : Json :=
  .object [
    ("fnname", .text "RunCommand"),
    ("slaverequestid", .text identity.slaveRequestId),
    ("taskparams", .object [
      ("sceneparams", .object [("scenepk", .text identity.sceneKey)]),
      ("taskparameters", .object parameters),
      ("tasktype", .text taskType)]),
    ("userinfo", .object user)]

variable {σ : Type}

namespace NamedCommand

def arguments : List String :=
  ["--taskparameters=\x7b\"speed\":1\x7d", "command", "--name=go"]

def around : ToolSurroundings where
  files _ := none
  environment := { entries := [("CTRLINK_SCENE_PK", "cell".toUTF8)] }
  workingDirectory := none

def heartbeat : String := "\x7b\"slavestates\":\x7b\"slaverequestid-worker\":\x7b\x7d\x7d\x7d"

def controller : Controller where
  commandPort := 11000
  heartbeatPort := 11001
  heartbeat := some heartbeat.toUTF8
  replies := ["\x7b\x7d".toUTF8]

def run : Option (ToolOutcome × Tapped Stage) :=
  runTool Stage.fabric.tapping noWatchers 2 arguments around ⟨controller.stage, []⟩

end NamedCommand

/-- A command whose parameters hold a fraction of sixteen digits. -/
def fineArguments : List String :=
  ["--slave_request_id=worker", "--task_scenepk=cell",
    "--taskparameters=\x7b\"speed\":0.9749153253337966\x7d", "command"]

def coarseMessage : String :=
  "\x7b\"fnname\":\"RunCommand\",\"slaverequestid\":\"worker\",\"taskparams\":\x7b" ++
    "\"sceneparams\":\x7b\"scenepk\":\"cell\"\x7d," ++
    "\"taskparameters\":\x7b\"speed\":0.9749153253337965\x7d," ++
    "\"tasktype\":\"realtimeitlplanning\"\x7d,\"userinfo\":\x7b\x7d\x7d"

def sentParameters? (message : String) : Option Json :=
  ((Json.read? message).bind (·.member? "taskparams")).bind (·.member? "taskparameters")

end TaskLink
