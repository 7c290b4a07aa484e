import TaskLink.Log.DebugFlags

/-!
# Log filters

A filter is a row of directives separated by commas.  A directive is a level
for everything, or `target[span{field=value}]=level` with most of its parts left
out.  A variable of the environment, unless it is blank, takes the place of the
filter that the flags make.
-/

namespace TaskLink

def directivesVariable : String := "RUST_LOG"

/-! ## Directives -/

/-- Whether a word names a level, by name in any case or by number, or is empty. -/
def isLevelWord (word : List Char) : Bool :=
  let lowered := String.ofList (word.map Char.toLower)
  ["", "off", "error", "warn", "info", "debug", "trace", "0", "1", "2", "3", "4", "5"].contains
    lowered

/-- What the logging library decides about characters and texts that are none of the grammar's. -/
structure LogLibrary where
  /-- Asked of characters beyond ASCII. -/
  isAlphanumeric : Char → Bool := fun _ => true
  /-- Whether a value can be compared with those of a field. -/
  isPattern : List Char → Bool := fun _ => true

section Grammar

variable (library : LogLibrary)

/-- Whether a target or a level may start with a character. -/
def startsWord (c : Char) : Bool :=
  c.isAlphanum || c == '-' || c == ':' || c == '_' || (128 ≤ c.toNat && library.isAlphanumeric c)

/-- Whether a text is the name of a field, perhaps with a value; what a second `=` starts is dropped. -/
def isField (text : List Char) : Bool :=
  !text.isEmpty &&
    match text.dropWhile (· != '=') with
    | [] => true
    | _ :: value => library.isPattern (value.takeWhile (· != '='))

def isLevelPart : List Char → Bool
  | [] => true
  | '=' :: level => isLevelWord level
  | _ => false

/-- Whether a text goes on after an opening bracket as the span and the level of a directive. -/
def isSpanPart (text : List Char) : Bool :=
  match text.dropWhile (fun c => c != ']' && c != '\x7b') with
  | ']' :: level => isLevelPart level
  | '\x7b' :: rest =>
      match rest.dropWhile (· != '\x7d') with
      | '\x7d' :: ']' :: level =>
          isField library (rest.takeWhile (· != '\x7d')) && isLevelPart level
      | _ => false
  | _ => false

/-- Whether a text is a span and a level, or one of them, or nothing. -/
def endsDirective : List Char → Bool
  | '[' :: rest => isSpanPart library rest
  | rest => isLevelPart rest

def isDirective (text : List Char) : Bool :=
  match trimChars text with
  | [] => false
  | '[' :: rest => isSpanPart library rest
  | first :: rest =>
      startsWord library first &&
        endsDirective library (rest.dropWhile fun c => c != '=' && c != '[')

/-- Whether every directive of a filter is good; empty ones are passed over. -/
def isFilter (text : String) : Bool :=
  (DebugFlags.splitAtChar ',' text.toList).all fun part =>
    part.isEmpty || isDirective library part

end Grammar

/-! ## Choosing a filter -/

inductive LogSetupError where
  | badFilter (filter : String)
  | badDirectives (directives : String)
  | alreadyInstalled
  deriving DecidableEq

def LogSetupError.message : LogSetupError → String
  | .badFilter filter => s!"Invalid log filter '{filter}'"
  | .badDirectives directives => s!"Invalid RUST_LOG directives '{directives}'"
  | .alreadyInstalled => "Failed to install tracing subscriber"

def chooseFilter (environment : Environment) (flags : DebugFlags) (baseLevel : String)
    (library : LogLibrary := {}) : Except LogSetupError String :=
  let ofFlags :=
    let filter := flags.filterText baseLevel
    if isFilter library filter then .ok filter else .error (.badFilter filter)
  match environment.get? directivesVariable with
  | some directives =>
      if allBlank directives then ofFlags
      else if isFilter library directives then .ok directives
      else .error (.badDirectives directives)
  | none => ofFlags

/-! ## Installing -/

structure LogSetup where
  installed : Option String := none

/-- Install a filter once; the filter is checked first. -/
def LogSetup.install (setup : LogSetup) (environment : Environment) (flags : DebugFlags)
    (baseLevel : String) (library : LogLibrary := {}) : Except LogSetupError Unit × LogSetup :=
  match chooseFilter environment flags baseLevel library with
  | .error error => (.error error, setup)
  | .ok filter =>
      match setup.installed with
      | some _ => (.error .alreadyInstalled, setup)
      | none => (.ok (), ⟨some filter⟩)

end TaskLink
