import TaskLink.Environment
import TaskLink.Text.Blank

/-!
# Debug flags

The names of components whose debug lines are wanted, from command-line flags
and from a variable of the environment.  The names are kept sorted, each once,
so that nothing depends on the order in which they were given.
-/

namespace TaskLink

def knownComponents : List String :=
  ["ctrlink", "ctrlink-config", "ctrlink-observability", "ctrlink-transports",
   "ctrlink-session"]

def debugVariable : String := "CTRLINK_DEBUG"

def debugFlagPrefix : String := "--debug-"

/-- Add a name to sorted names, unless it is there. -/
def insertName (name : String) : List String → List String
  | [] => [name]
  | first :: rest =>
      if name < first then name :: first :: rest
      else if name == first then first :: rest
      else first :: insertName name rest

theorem mem_insertName {name other : String} {names : List String} :
    other ∈ insertName name names ↔ other = name ∨ other ∈ names := by
  induction names with
  | nil => simp [insertName]
  | cons first rest ih =>
      unfold insertName
      split
      · simp
      · split
        · next same =>
            have same : name = first := by simpa using same
            simp [same]
        · simp only [List.mem_cons, ih]
          constructor
          · rintro (h | h | h) <;> simp [h]
          · rintro (h | h | h) <;> simp [h]

theorem insertName_sorted {names : List String} (sorted : names.Pairwise (· < ·))
    (name : String) : (insertName name names).Pairwise (· < ·) := by
  induction names with
  | nil => exact List.pairwise_singleton _ name
  | cons first rest ih =>
      obtain ⟨least, later⟩ := List.pairwise_cons.mp sorted
      unfold insertName
      split
      · next before =>
          refine List.pairwise_cons.mpr ⟨fun other member => ?_, sorted⟩
          rcases List.mem_cons.mp member with rfl | member
          · exact before
          · exact String.lt_trans before (least other member)
      · next notBefore =>
          split
          · exact sorted
          · next differs =>
              refine List.pairwise_cons.mpr ⟨fun other member => ?_, ih later⟩
              rcases mem_insertName.mp member with rfl | member
              · refine String.not_le.mp fun notAfter => differs ?_
                exact beq_of_eq (String.le_antisymm notAfter (String.not_lt.mp notBefore))
              · exact least other member

/-- Components with debug lines switched on, sorted by bytes, each once. -/
structure DebugFlags where
  enabled : List String
  sorted : enabled.Pairwise (· < ·)
  deriving DecidableEq

namespace DebugFlags

/-! ## Switching on -/

def off : DebugFlags := ⟨[], .nil⟩

@[simp]
theorem enabled_off : off.enabled = [] := rfl

def enable (flags : DebugFlags) (name : String) : DebugFlags :=
  ⟨insertName name flags.enabled, insertName_sorted flags.sorted name⟩

def enableAll (flags : DebugFlags) : DebugFlags :=
  knownComponents.foldl enable flags

def mergeArgument (flags : DebugFlags) (argument : String) : DebugFlags :=
  if argument == "--debug-all" then flags.enableAll
  else
    match debugFlagPrefix.toList.isPrefixOf? argument.toList with
    | some name => flags.enable (String.ofList name)
    | none => flags

def ofArguments (arguments : List String) : DebugFlags :=
  arguments.foldl mergeArgument off

def splitAtChar (separator : Char) : List Char → List (List Char)
  | [] => [[]]
  | c :: rest =>
      if c == separator then [] :: splitAtChar separator rest
      else
        match splitAtChar separator rest with
        | [] => [[c]]
        | part :: parts => (c :: part) :: parts

def mergeValue (flags : DebugFlags) (value : String) : DebugFlags :=
  if trimBlank value == "all" then flags.enableAll
  else
    ((splitAtChar ',' value.toList).map trimChars).foldl
      (fun flags name => if name.isEmpty then flags else flags.enable (String.ofList name)) flags

def ofProcess (arguments : List String) (environment : Environment) : DebugFlags :=
  match environment.get? debugVariable with
  | some value => (ofArguments arguments).mergeValue value
  | none => ofArguments arguments

/-! ## Asking -/

def isEnabled (flags : DebugFlags) (name : String) : Bool :=
  flags.enabled.contains name

def any (flags : DebugFlags) : Bool :=
  !flags.enabled.isEmpty

/-! ## Filters -/

/-- The logging target of a component: dashes become underscores. -/
def target (name : String) : String :=
  String.ofList (name.toList.map fun c => if c == '-' then '_' else c)

def filterText (flags : DebugFlags) (baseLevel : String) : String :=
  ",".intercalate (flags.enabled.map (fun name => target name ++ "=debug") ++ [baseLevel])

def help : String :=
  "Debug Flags:\n" ++
  "  --debug-all                    Enable debug logging for all crates\n" ++
  "  --debug-\x7bcrate-name\x7d          Enable debug logging for specific crate\n" ++
  "\n" ++
  "Available crates:\n" ++
  "  " ++ ", ".intercalate knownComponents ++ "\n" ++
  "\n" ++
  "Environment Variable:\n" ++
  "  " ++ debugVariable ++
    "=\x7bcrate-name\x7d[,\x7bcrate-name\x7d]  Enable debug for crates (comma-separated)\n" ++
  "  " ++ debugVariable ++
    "=all                               Enable debug for all crates\n" ++
  "\n" ++
  "Examples:\n" ++
  "  --debug-ctrlink-transports\n" ++
  "  --debug-ctrlink-transports --debug-ctrlink-session\n" ++
  "  " ++ debugVariable ++ "=ctrlink-transports,ctrlink-session\n"

/-! ## Laws -/

theorem mem_enable {flags : DebugFlags} {name other : String} :
    other ∈ (flags.enable name).enabled ↔ other = name ∨ other ∈ flags.enabled :=
  mem_insertName

end DebugFlags

end TaskLink
