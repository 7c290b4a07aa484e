import Mathlib.Data.List.Sort
import TaskLink.Proofs.Log.EnabledNames
import TaskLink.Proofs.Text.ByteOrder

/-!
# The order of switching on

Components are switched on by arguments, by values of the debug variable, by
their names and all at once.  What the filter says depends on nothing but the
set of their names: it has one directive for each name, in the order of the
bytes, however often and in whatever order the names were given.
-/

namespace TaskLink

namespace DebugFlags

/-! ## Switches -/

inductive Switch where
  | value (value : String)
  | component (name : String)
  | everything
  deriving DecidableEq

def Switch.names : Switch → List String
  | .value text => valueNames text
  | .component name => [name]
  | .everything => knownComponents

def follow (flags : DebugFlags) : Switch → DebugFlags
  | .value value => flags.mergeValue value
  | .component name => flags.enable name
  | .everything => flags.enableAll

def afterSwitches (arguments : List String) (switches : List Switch) : DebugFlags :=
  switches.foldl follow (ofArguments arguments)

def IsGiven (arguments : List String) (switches : List Switch) (name : String) : Prop :=
  (∃ argument ∈ arguments, name ∈ argumentNames argument) ∨
    ∃ switch ∈ switches, name ∈ switch.names

theorem follow_eq (flags : DebugFlags) (switch : Switch) :
    flags.follow switch = switch.names.foldl enable flags := by
  cases switch with
  | value value => exact mergeValue_eq flags value
  | component name => rfl
  | everything => rfl

/-- Every name that is given is switched on, one after the other. -/
theorem afterSwitches_eq (arguments : List String) (switches : List Switch) :
    afterSwitches arguments switches =
      (arguments.flatMap argumentNames ++ switches.flatMap Switch.names).foldl enable off := by
  have follows : follow = fun flags switch => switch.names.foldl enable flags :=
    funext fun flags => funext (follow_eq flags)
  rw [afterSwitches, List.foldl_append, ← ofArguments_eq, List.foldl_flatMap, follows]

theorem mem_afterSwitches {arguments : List String} {switches : List Switch} {name : String} :
    name ∈ (afterSwitches arguments switches).enabled ↔ IsGiven arguments switches name := by
  rw [afterSwitches_eq, mem_foldl_enable, List.mem_append, List.mem_flatMap, List.mem_flatMap]
  exact or_iff_left List.not_mem_nil

theorem isEnabled_iff {flags : DebugFlags} {name : String} :
    flags.isEnabled name = true ↔ name ∈ flags.enabled :=
  List.contains_iff_mem

/-! ## Sorted names -/

/-- Flags are told apart by the names that are on. -/
theorem eq_of_mem_iff {flags other : DebugFlags}
    (same : ∀ name, name ∈ flags.enabled ↔ name ∈ other.enabled) : flags = other := by
  have names : flags.enabled = other.enabled :=
    List.Pairwise.eq_of_mem_iff flags.sorted other.sorted same
  cases flags
  cases other
  cases names
  rfl

theorem enabled_bytes (flags : DebugFlags) :
    flags.enabled.Pairwise fun name later => encodedBytes name < encodedBytes later :=
  flags.sorted.imp encodedBytes_lt

/-- Flags depend on the set of the names that are given. -/
theorem afterSwitches_congr {arguments arguments' : List String} {switches switches' : List Switch}
    (same : ∀ name, IsGiven arguments switches name ↔ IsGiven arguments' switches' name) :
    afterSwitches arguments switches = afterSwitches arguments' switches' := by
  refine eq_of_mem_iff fun name => ?_
  rw [mem_afterSwitches, mem_afterSwitches]
  exact same name

/-! ## The filter -/

/--
The filter has a directive for each name that is given, in the order of their
bytes, and then the base level.  So it is the same for two rows of arguments
and switches that give the same names, and for rows that hold the same
arguments and switches in another order or more often.
-/
theorem filter_depends_on_names (arguments arguments' : List String)
    (switches switches' : List Switch) (baseLevel : String) :
    let flags := afterSwitches arguments switches
    let other := afterSwitches arguments' switches'
    (∃ names : List String,
      names.Pairwise (fun name later => encodedBytes name < encodedBytes later) ∧
        (∀ name, name ∈ names ↔ IsGiven arguments switches name) ∧
        (∀ name, flags.isEnabled name = true ↔ name ∈ names) ∧
        flags.filterText baseLevel =
          ",".intercalate (names.map (fun name => target name ++ "=debug") ++ [baseLevel])) ∧
      ((∀ name, IsGiven arguments switches name ↔ IsGiven arguments' switches' name) →
        flags.filterText baseLevel = other.filterText baseLevel) ∧
      ((∀ argument, argument ∈ arguments ↔ argument ∈ arguments') →
        (∀ switch, switch ∈ switches ↔ switch ∈ switches') →
        flags.filterText baseLevel = other.filterText baseLevel) := by
  intro flags other
  have depends (same : ∀ name,
      IsGiven arguments switches name ↔ IsGiven arguments' switches' name) :
      flags.filterText baseLevel = other.filterText baseLevel :=
    congrArg (filterText · baseLevel) (afterSwitches_congr same)
  refine ⟨⟨flags.enabled, ?_, fun name => mem_afterSwitches, fun name => isEnabled_iff, rfl⟩,
    depends, fun sameArguments sameSwitches => depends fun name => ?_⟩
  · exact flags.enabled_bytes
  · simp only [IsGiven, sameArguments, sameSwitches]

/-- The word for all components may stand in an argument or in a variable, and names may recur. -/
theorem filter_depends_on_names_given_twice :
    (∀ name, IsGiven ["--debug-all", "--debug-a-b"] [] name ↔
        IsGiven ["--debug-a-b"] [.component "a-b", .value " all "] name) ∧
      (afterSwitches ["--debug-a-b"] [.component "a-b", .value " all "]).filterText "info" =
        "a_b=debug,ctrlink=debug,ctrlink_config=debug,ctrlink_observability=debug," ++
          "ctrlink_session=debug,ctrlink_transports=debug,info" ∧
      (∀ argument, argument ∈ ["--debug-é", "--debug-z"] ↔
        argument ∈ ["--debug-z", "--debug-é", "--debug-z"]) ∧
      (afterSwitches ["--debug-z", "--debug-é", "--debug-z"] []).filterText "warn" =
        "z=debug,é=debug,warn" := by
  have reached : afterSwitches ["--debug-all", "--debug-a-b"] [] =
      afterSwitches ["--debug-a-b"] [.component "a-b", .value " all "] := by
    decide +kernel
  have given (name : String) : IsGiven ["--debug-all", "--debug-a-b"] [] name ↔
      IsGiven ["--debug-a-b"] [.component "a-b", .value " all "] name := by
    rw [← mem_afterSwitches, ← mem_afterSwitches, reached]
  have repeated (argument : String) : argument ∈ ["--debug-é", "--debug-z"] ↔
      argument ∈ ["--debug-z", "--debug-é", "--debug-z"] := by
    simp only [List.mem_cons, List.not_mem_nil, or_false]
    tauto
  have all := (filter_depends_on_names _ _ _ _ "info").2.1 given
  have ordered := (filter_depends_on_names _ _ [] [] "warn").2.2 repeated fun _ => Iff.rfl
  refine ⟨given, ?_, repeated, ?_⟩
  · rw [← all]
    decide +kernel
  · rw [← ordered]
    decide +kernel

end DebugFlags

end TaskLink
