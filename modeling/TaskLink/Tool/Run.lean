import TaskLink.Configuration.Rules
import TaskLink.Configuration.Search
import TaskLink.Log.Filter
import TaskLink.Session.TaskSession
import TaskLink.Tool.Arguments
import TaskLink.Tool.Report

/-!
# The tool

The tool finds a running task session through its heartbeat, and runs one
command on it if it is told to.
-/

namespace TaskLink

def versionLine : String := "ctrlink-task 0.3.0"

def usageText : String :=
  "Discover and command controller task sessions\n\n" ++
  "Usage: ctrlink-task [OPTIONS] <COMMAND>\n\n" ++
  "Commands:\n" ++
  "  heartbeat  Wait for a heartbeat and print the session identity it announces\n" ++
  "  command    Bootstrap the session and run the task parameters as one command\n"

/-- What a run leaves behind: its exit code and what it printed. -/
structure ToolOutcome where
  exitCode : UInt8
  output : String := ""
  errors : String := ""
  deriving DecidableEq

structure ToolSurroundings where
  files : FileView
  environment : Environment
  workingDirectory : Option String
  logging : LogLibrary := {}

/-! ## Preparing -/

namespace ToolFlags

def debugFlags (flags : ToolFlags) (environment : Environment) : DebugFlags :=
  let start : DebugFlags := if flags.debugAll then DebugFlags.off.enableAll else .off
  let named := flags.debugComponents.foldl DebugFlags.enable start
  match environment.get? debugVariable with
  | some value => named.mergeValue value
  | none => named

def loadConfiguration (flags : ToolFlags) (around : ToolSurroundings) :
    Except ConfigurationError Configuration :=
  Configuration.load around.files around.environment around.workingDirectory flags.configuration
    flags.overrides

def loggingComplaint (flags : ToolFlags) (around : ToolSurroundings)
    (configuration : Configuration) : String :=
  let debugFlags := flags.debugFlags around.environment
  let level := configuration.logging.level
  match (LogSetup.install {} around.environment debugFlags level around.logging).1 with
  | .ok () => ""
  | .error error => s!"Logging not initialized: {error.message}\n"

end ToolFlags

def toolOptions (configuration : Configuration) : Except ToolError SessionOptions :=
  match configuration.validate with
  | .error error => .error (.invalid error)
  | .ok () =>
      match SessionOptions.ofConfiguration configuration with
      | .error error => .error (.failed error)
      | .ok options => .ok options

/-! ## Actions -/

def SessionIdentity.lines (identity : SessionIdentity) : String :=
  s!"task_scenepk: {identity.sceneKey}\n" ++ s!"slave_request_id: {identity.slaveRequestId}\n"

/-- What an action printed, and whether it failed afterwards. -/
structure ToolResult where
  output : String := ""
  failure : Option SessionError := none
  deriving DecidableEq

def commandParameters (options : SessionOptions) (name : Option String) : Json :=
  match name with
  | some name => options.taskParameters.withMember "command" (.text name)
  | none => options.taskParameters

def replyResult (identity : SessionIdentity) : Except SessionError Json → ToolResult
  | .ok reply => { output := identity.lines ++ reply.pretty ++ "\n" }
  | .error error => { output := identity.lines, failure := some error }

variable {σ : Type} (fabric : Fabric σ) (watchers : Watchers σ)

def showHeartbeat (options : SessionOptions) (s : σ) : ToolResult × σ :=
  match fabric.newContext s with
  | (context, s) =>
      let source := subscribedHeartbeats fabric context options.heartbeatSettings
      match source.openSource s with
      | .error (error, s) => ({ failure := some error }, s)
      | .ok opened =>
          match source.discover options.discovery opened with
          | (.error error, opened) => ({ failure := some error }, source.closeSource opened)
          | (.ok heartbeat, opened) =>
              let identity := options.suppliedIdentity.fill heartbeat
              ({ output := identity.lines ++ s!"heartbeat: {heartbeat}\n" },
                source.closeSource opened)

def runCommand (fuel : Nat) (options : SessionOptions) (name : Option String) (s : σ) :
    Option (ToolResult × σ) :=
  match TaskSession.bootstrap fabric options s with
  | (.error error, s) => some ({ failure := some error }, s)
  | (.ok session, s) =>
      let parameters := commandParameters options name
      (session.execute fabric watchers fuel parameters options.commandTimeout s).map
        fun (reply, session, s) =>
          (replyResult session.identity reply, session.close fabric watchers s)

def ToolAction.perform (fuel : Nat) (options : SessionOptions) (s : σ) :
    ToolAction → Option (ToolResult × σ)
  | .heartbeat => some (showHeartbeat fabric options s)
  | .command name => runCommand fabric watchers fuel options name s

/-! ## Runs -/

def ToolError.outcome (error : ToolError) (complaint : String) : ToolOutcome :=
  { exitCode := 1, errors := complaint ++ error.line ++ "\n" }

def ToolResult.outcome (result : ToolResult) (complaint : String) : ToolOutcome :=
  match result.failure with
  | none => { exitCode := 0, output := result.output, errors := complaint }
  | some error => { (ToolError.failed error).outcome complaint with output := result.output }

def runAction (fuel : Nat) (flags : ToolFlags) (action : ToolAction) (around : ToolSurroundings)
    (s : σ) : Option (ToolOutcome × σ) :=
  match flags.loadConfiguration around with
  | .error error => some ((ToolError.notLoaded error).outcome "", s)
  | .ok configuration =>
      let complaint := flags.loggingComplaint around configuration
      match toolOptions configuration with
      | .error error => some (error.outcome complaint, s)
      | .ok options =>
          (action.perform fabric watchers fuel options s).map fun (result, s) =>
            (result.outcome complaint, s)

/-- Run the tool; nothing is returned when `fuel` polls did not settle its command. -/
def runTool (fuel : Nat) (arguments : List String) (around : ToolSurroundings) (s : σ) :
    Option (ToolOutcome × σ) :=
  match ToolRequest.ofArguments arguments with
  | .error error => some ({ exitCode := 2, errors := error.message ++ "\n" }, s)
  | .ok .version => some ({ exitCode := 0, output := versionLine ++ "\n" }, s)
  | .ok .help => some ({ exitCode := 0, output := usageText }, s)
  | .ok (.run flags action) => runAction fabric watchers fuel flags action around s

end TaskLink
