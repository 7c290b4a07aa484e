import TaskLink.Scenario.Act

/-!
# Playing a scenario

Objects are known by name.  Every step is answered; a step about an object
that does not exist is answered with that, and creating an object under a used
name drops the old one once the new one exists.
-/

namespace TaskLink

/-! ## The scenario -/

structure Scenario where
  stage : Stage := {}
  objects : Roster String SceneObject := {}

namespace Scenario

def context? (scenario : Scenario) (name : String) : Option ContextId :=
  match scenario.objects.get? name with
  | some (.context id) => some id
  | _ => none

def onStage (scenario : Scenario) (stage : Stage) : Scenario :=
  { scenario with stage := stage }

/-! ## Creating -/

def enroll (scenario : Scenario) (name : String) (object : SceneObject) : Scenario :=
  let stage :=
    match scenario.objects.get? name with
    | some old => old.close scenario.stage
    | none => scenario.stage
  { stage := stage, objects := scenario.objects.put name object }

def install (interrupt : Interrupt) (stage : Stage) : Nat × Stage :=
  let (key, stage) := stage.freshKey
  (key, { stage with interrupts := stage.interrupts.put key interrupt })

def enrollChecked {α : Type} (scenario : Scenario) (name : String) (object : α → SceneObject) :
    Except LinkError α → Answer × Scenario
  | .error error => (.linkFailure error, scenario)
  | .ok value => (.done, scenario.enroll name (object value))

def describeSession (session : TaskSession Stage) : Answer :=
  .session session.identity session.endpoint

def enrollSession (scenario : Scenario) (name : String) (complete : Answer → Answer) :
    Except SessionError (TaskSession Stage) → Answer × Scenario
  | .error error => (complete (.sessionFailure error), scenario)
  | .ok session =>
      (complete (.success (describeSession session)), scenario.enroll name (.session session none))

def createSession (scenario : Scenario) (name : String) (context : Option ContextId)
    (options : SessionOptions) : SessionRoute → Answer × Scenario
  | .scripted endpoint answers =>
      let source := HeartbeatScript.source endpoint none
      let (result, script, stage) :=
        TaskSession.bootstrapFrom Stage.fabric source options { answers := answers } scenario.stage
      (scenario.onStage stage).enrollSession name (.fetched · script.waits.length) result
  | .direct =>
      let (result, stage) := TaskSession.bootstrap Stage.fabric options scenario.stage
      (scenario.onStage stage).enrollSession name id result
  | .shared =>
      match context with
      | none => (.noObject, scenario)
      | some context =>
          let (result, stage) :=
            TaskSession.bootstrapOn Stage.fabric context options scenario.stage
          (scenario.onStage stage).enrollSession name id result
  | .retried strategy =>
      match TaskSession.connectWithRetry Stage.fabric pollLimit options strategy scenario.stage with
      | none => (.unsettled, scenario)
      | some (result, strategy, stage) =>
          (scenario.onStage stage).enrollSession name (.retried · strategy) result

def create (scenario : Scenario) (name : String) (context : Option ContextId) :
    Creation → Answer × Scenario
  | .context =>
      let (id, stage) := scenario.stage.onNetwork Network.newContext
      (.done, (scenario.onStage stage).enroll name (.context id))
  | .requester settings none =>
      scenario.enrollChecked name (.requester · none) (Requester.create settings context none)
  | .requester settings (some interrupt) =>
      let (key, stage) := install interrupt scenario.stage
      (scenario.onStage stage).enrollChecked name (.requester · (some key))
        (Requester.create settings context (some (Stage.ask key)))
  | .framed settings =>
      scenario.enrollChecked name .framed (FramedRequester.create settings context)
  | .subscriber settings =>
      scenario.enrollChecked name .subscriber (Subscriber.create settings context)
  | .responder settings =>
      scenario.enrollChecked name .responder (Responder.create settings context)
  | .publisher settings =>
      scenario.enrollChecked name .publisher (Broadcaster.create settings context)
  | .lifecycle role endpoint options =>
      (.done, scenario.enroll name
        (.lifecycle { role := role, endpoint := endpoint, options := options }))
  | .beacon beacon =>
      let (key, stage) := scenario.stage.freshKey
      let beacon := { beacon with context := context }
      let stage := { stage with beacons := stage.beacons.put key beacon }
      (.success (.flag true), (scenario.onStage stage).enroll name (.beacon key))
  | .monitor endpoint options limit =>
      let (context, stage) :=
        match context with
        | some context => (context, scenario.stage)
        | none => scenario.stage.onNetwork Network.newContext
      match stage.startMonitor context endpoint options limit with
      | (.error error, stage) => (.sessionFailure error, scenario.onStage stage)
      | (.ok key, stage) =>
          (.success (.text endpoint.text), (scenario.onStage stage).enroll name (.monitor key))
  | .session options route => scenario.createSession name context options route

/-! ## Interrupts -/

def changeFlags (scenario : Scenario) (object : SceneObject)
    (change : PreemptFlags → PreemptFlags) : Answer × Scenario :=
  match object.interrupt? with
  | none => (.noObject, scenario)
  | some key =>
      match scenario.stage.interrupts.get? key with
      | some (.flags raised) =>
          let interrupts := scenario.stage.interrupts.put key (.flags (change raised))
          (.count raised.mask.toNat,
            scenario.onStage { scenario.stage with interrupts := interrupts })
      | _ => (.noObject, scenario)

def checksOf (scenario : Scenario) (object : SceneObject) : Answer :=
  match object.interrupt?.bind scenario.stage.interrupts.get? with
  | some (.after _ asked) => .count asked
  | _ => .noObject

def setInterrupt (scenario : Scenario) (name : String) (object : SceneObject)
    (interrupt : Option Interrupt) : Answer × Scenario :=
  let (key, stage) :=
    match interrupt with
    | some interrupt =>
        let (key, stage) := install interrupt scenario.stage
        (some key, stage)
    | none => (none, scenario.stage)
  let preempt := key.map Stage.ask
  let keep (object : SceneObject) : Answer × Scenario :=
    (.nothing, { stage := stage, objects := scenario.objects.put name object })
  match object with
  | .requester client _ => keep (.requester { client with preempt := preempt } key)
  | .session session _ =>
      let client := { session.client with preempt := preempt }
      keep (.session { session with client := client } key)
  | _ => (.unsupported, scenario)

/-! ## Acting -/

def act (scenario : Scenario) (name : String) (context : Option ContextId) (action : Action) :
    Answer × Scenario :=
  match scenario.objects.get? name with
  | none => (if let .drop := action then .flag false else .noObject, scenario)
  | some object =>
      match action with
      | .drop =>
          (.flag true, {
            stage := object.close scenario.stage
            objects := scenario.objects.erase name })
      | .terminate =>
          match object with
          | .context id =>
              let network := scenario.stage.network.terminate id
              (.done, scenario.onStage { scenario.stage with network := network })
          | _ => (.unsupported, scenario)
      | .awaitLatest expected =>
          let (answer, stage) := awaitLatest expected (latestOf object) scenario.stage
          (answer, scenario.onStage stage)
      | .raise bits => scenario.changeFlags object (·.raise bits)
      | .clear bits => scenario.changeFlags object (·.clear bits)
      | .checks => (scenario.checksOf object, scenario)
      | .setInterrupt interrupt => scenario.setInterrupt name object interrupt
      | action =>
          let (answer, object, stage) := playObject action context object scenario.stage
          (answer, { stage := stage, objects := scenario.objects.put name object })

/-! ## Steps -/

def perform (scenario : Scenario) (step : Step) : Answer × Scenario :=
  let context := step.context.bind scenario.context?
  match step.action with
  | .create creation => scenario.create step.name context creation
  | .pause span => (.nothing, scenario.onStage (scenario.stage.pause span))
  | .synchronize => (.nothing, scenario)
  | action => scenario.act step.name context action

def engage (scenario : Scenario) (serving : Serving) : Option Stage :=
  match scenario.objects.get? serving.server with
  | some (.responder server) =>
      let helper : Helper := {
        server := server, keepsFrames := serving.keepsFrames, replies := serving.replies }
      some { scenario.stage with helper := some helper }
  | _ => none

def dismiss (answer : Answer) (scenario : Scenario) : Answer × Scenario :=
  match scenario.stage.helper with
  | none => (answer, scenario)
  | some helper =>
      let (helper, network) := helper.serveAll helper.replies scenario.stage.network
      (.served answer helper.answers,
        scenario.onStage { scenario.stage with helper := none, network := network })

def play (scenario : Scenario) (step : Step) : Answer × Scenario :=
  let ending := step.ending.bind scenario.context?
  let begun := scenario.onStage { scenario.stage with ending := ending }
  let (answer, scenario) :=
    match step.serving with
    | none => begun.perform step
    | some serving =>
        match begun.engage serving with
        | none => (.noObject, begun)
        | some stage =>
            let (answer, scenario) := (begun.onStage stage).perform step
            dismiss answer scenario
  (answer, scenario.onStage scenario.stage.conclude)

def playAll (steps : List Step) : List Answer :=
  (steps.foldl
    (fun (answers, scenario) step =>
      match scenario.play step with
      | (answer, scenario) => (answer :: answers, scenario))
    (([], {}) : List Answer × Scenario)).1.reverse

end Scenario

end TaskLink
