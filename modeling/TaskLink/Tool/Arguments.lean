import TaskLink.Number.Text

/-!
# Arguments of the tool

A command line names an action, with flags before it.  Flags are long, and
their value follows as the next argument or after an equals sign; only the
latter may begin with a dash.  The arguments are read from left to right, and
the first mistake counts.
-/

namespace TaskLink

/-! ## What is asked for -/

inductive ToolAction where
  | heartbeat
  | command (name : Option String)
  deriving DecidableEq

structure ToolFlags where
  /-- Values that override the configuration, by the name of their flag. -/
  overrides : List (String × String) := []
  configuration : Option String := none
  debugAll : Bool := false
  debugComponents : List String := []
  deriving DecidableEq

/-- What a command line asks for. -/
inductive ToolRequest where
  | run (flags : ToolFlags) (action : ToolAction)
  | version
  | help
  deriving DecidableEq

inductive UsageError where
  | unexpected (argument : String)
  | missingValue (flag : String)
  | badValue (flag value : String)
  | repeated (flag : String)
  | missingAction
  deriving DecidableEq

def UsageError.message : UsageError → String
  | .unexpected argument => s!"error: unexpected argument '{argument}' found"
  | .missingValue flag => s!"error: a value is required for '--{flag}' but none was supplied"
  | .badValue flag value => s!"error: invalid value '{value}' for '--{flag}'"
  | .repeated flag => s!"error: the argument '--{flag}' cannot be used multiple times"
  | .missingAction => "error: 'ctrlink-task' requires a subcommand but one was not provided"

/-! ## Values -/

inductive FlagKind where
  | text
  | path
  | port
  | seconds
  deriving DecidableEq

def readSignedPort? (value : String) : Option UInt16 :=
  let (negative, digits) :=
    match value.toList with
    | '-' :: rest => (true, rest)
    | '+' :: rest => (false, rest)
    | digits => (false, digits)
  if digits.isEmpty || !digits.all isDigit then none
  else
    let size := digitsValue digits
    if negative then (if size = 0 then some 0 else none)
    else if size < UInt16.size then some (UInt16.ofNat size) else none

def FlagKind.accept? (kind : FlagKind) (value : String) : Option String :=
  match kind with
  | .text => some value
  | .path => if value.isEmpty then none else some value
  | .port => (readSignedPort? value).map fun port => toString port.toNat
  | .seconds => (Double.read? value).map Double.plainText

def overrideFlags : List (String × FlagKind) :=
  [("controller_hostname", .text), ("controller_port", .port), ("zmq_port", .port),
   ("heartbeat_port", .port), ("slave_request_id", .text), ("task_scenepk", .text),
   ("taskparameters", .text), ("controller_command_timeout", .seconds)]

def flagKind? (flag : String) : Option FlagKind :=
  if flag == "config" then some .path
  else if flag == "debug-crate" then some .text
  else overrideFlags.lookup flag

namespace ToolFlags

def addValue (flags : ToolFlags) (flag value : String) : Except UsageError ToolFlags :=
  if flag == "debug-crate" then
    .ok { flags with debugComponents := flags.debugComponents ++ [value] }
  else if flag == "config" then
    if flags.configuration.isSome then .error (.repeated flag)
    else .ok { flags with configuration := some value }
  else if flags.overrides.any fun given => given.1 == flag then .error (.repeated flag)
  else .ok { flags with overrides := flags.overrides ++ [(flag, value)] }

def give (flags : ToolFlags) (flag : String) (kind : FlagKind) (value : String) :
    Except UsageError ToolFlags :=
  match kind.accept? value with
  | some accepted => flags.addValue flag accepted
  | none => .error (.badValue flag value)

def giveDebugAll (flags : ToolFlags) : Except UsageError ToolFlags :=
  if flags.debugAll then .error (.repeated "debug-all")
  else .ok { flags with debugAll := true }

end ToolFlags

/-! ## Arguments -/

inductive ArgumentForm where
  | long (flag : String) (attached : Option String)
  | short (letter : Char)
  | escape
  | plain
  deriving DecidableEq

def splitAttached (text : List Char) : String × Option String :=
  (String.ofList (text.takeWhile (· != '=')),
    match text.dropWhile (· != '=') with
    | _ :: value => some (String.ofList value)
    | [] => none)

def argumentForm (argument : String) : ArgumentForm :=
  match argument.toList with
  | ['-', '-'] => .escape
  | '-' :: '-' :: rest =>
      let (flag, attached) := splitAttached rest
      .long flag attached
  | '-' :: letter :: _ => .short letter
  | _ => .plain

def isSeparateValue (argument : String) : Bool :=
  argumentForm argument = .plain

/-! ## Actions -/

def readHeartbeat (flags : ToolFlags) : List String → Except UsageError ToolRequest
  | [] => .ok (.run flags .heartbeat)
  | argument :: rest =>
      match argumentForm argument with
      | .long "help" none => .ok .help
      | .short 'h' => .ok .help
      | .escape =>
          match rest with
          | [] => .ok (.run flags .heartbeat)
          | extra :: _ => .error (.unexpected extra)
      | _ => .error (.unexpected argument)

def readCommand (flags : ToolFlags) : Option String → List String → Except UsageError ToolRequest
  | name, [] => .ok (.run flags (.command name))
  | name, argument :: rest =>
      match argumentForm argument with
      | .long "name" (some value) =>
          if name.isSome then .error (.repeated "name") else readCommand flags (some value) rest
      | .long "name" none =>
          match rest with
          | value :: rest =>
              if !isSeparateValue value then .error (.missingValue "name")
              else if name.isSome then .error (.repeated "name")
              else readCommand flags (some value) rest
          | [] => .error (.missingValue "name")
      | .long "help" none => .ok .help
      | .short 'h' => .ok .help
      | .escape =>
          match rest with
          | [] => .ok (.run flags (.command name))
          | extra :: _ => .error (.unexpected extra)
      | _ => .error (.unexpected argument)

def readHelp : List String → Except UsageError ToolRequest
  | [] => .ok .help
  | action :: rest =>
      if ["heartbeat", "command", "help"].contains action then
        match rest with
        | [] => .ok .help
        | extra :: _ => .error (.unexpected extra)
      else .error (.unexpected action)

/-! ## Command lines -/

def readArguments (flags : ToolFlags) : List String → Except UsageError ToolRequest
  | [] => .error .missingAction
  | argument :: rest =>
      match argumentForm argument with
      | .plain =>
          if argument == "heartbeat" then readHeartbeat flags rest
          else if argument == "command" then readCommand flags none rest
          else if argument == "help" then readHelp rest
          else .error (.unexpected argument)
      | .escape => .error (.unexpected argument)
      | .short 'V' => .ok .version
      | .short 'h' => .ok .help
      | .short _ => .error (.unexpected argument)
      | .long "version" none => .ok .version
      | .long "help" none => .ok .help
      | .long "debug-all" none =>
          match flags.giveDebugAll with
          | .ok flags => readArguments flags rest
          | .error error => .error error
      | .long flag attached =>
          match flagKind? flag, attached, rest with
          | none, _, _ => .error (.unexpected argument)
          | some kind, some value, rest =>
              match flags.give flag kind value with
              | .ok flags => readArguments flags rest
              | .error error => .error error
          | some _, none, [] => .error (.missingValue flag)
          | some kind, none, value :: rest =>
              if isSeparateValue value then
                match flags.give flag kind value with
                | .ok flags => readArguments flags rest
                | .error error => .error error
              else .error (.missingValue flag)

def ToolRequest.ofArguments (arguments : List String) : Except UsageError ToolRequest :=
  readArguments {} arguments

end TaskLink
