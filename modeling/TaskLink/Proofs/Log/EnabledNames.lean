import Mathlib.Data.List.Basic
import TaskLink.Log.DebugFlags

/-!
# Which components are switched on

Each argument and the debug variable name components, and all of these are
switched on one after the other.  A name may be missing: the variable passes
over such names, an argument that is nothing but the start of a flag does not.
-/

namespace TaskLink

namespace DebugFlags

/-! ## Names that are given -/

def flagName? (argument : String) : Option String :=
  (debugFlagPrefix.toList.isPrefixOf? argument.toList).map String.ofList

def argumentNames (argument : String) : List String :=
  if argument == "--debug-all" then knownComponents else (flagName? argument).toList

def valueNames (value : String) : List String :=
  if trimBlank value == "all" then knownComponents
  else
    (((splitAtChar ',' value.toList).map trimChars).filter fun name => !name.isEmpty).map
      String.ofList

def processNames (arguments : List String) (environment : Environment) : List String :=
  arguments.flatMap argumentNames ++ ((environment.get? debugVariable).map valueNames).getD []

theorem flagName?_eq_some_iff {argument name : String} :
    flagName? argument = some name ↔ argument = debugFlagPrefix ++ name := by
  unfold flagName?
  rw [Option.map_eq_some_iff]
  constructor
  · rintro ⟨rest, found, rfl⟩
    rw [← String.toList_inj, String.toList_append, String.toList_ofList]
    exact (List.isPrefixOf?_eq_some_iff_append_eq.mp found).symm
  · rintro rfl
    refine ⟨name.toList, ?_, String.ofList_toList⟩
    rw [List.isPrefixOf?_eq_some_iff_append_eq, String.toList_append]

theorem mem_argumentNames {argument name : String} :
    name ∈ argumentNames argument ↔
      (argument = "--debug-all" ∧ name ∈ knownComponents) ∨
        (argument ≠ "--debug-all" ∧ argument = debugFlagPrefix ++ name) := by
  unfold argumentNames
  by_cases all : argument = "--debug-all"
  · simp [all]
  · simp [all, flagName?_eq_some_iff]

theorem mem_valueNames {value name : String} :
    name ∈ valueNames value ↔
      (trimBlank value = "all" ∧ name ∈ knownComponents) ∨
        (trimBlank value ≠ "all" ∧ name ≠ "" ∧
          ∃ piece ∈ splitAtChar ',' value.toList, trimChars piece = name.toList) := by
  unfold valueNames
  by_cases all : trimBlank value = "all"
  · simp [all]
  · have named : name ∈ (((splitAtChar ',' value.toList).map trimChars).filter
          fun name => !name.isEmpty).map String.ofList ↔
        name ≠ "" ∧ ∃ piece ∈ splitAtChar ',' value.toList, trimChars piece = name.toList := by
      constructor
      · intro isIn
        obtain ⟨chars, isKept, rfl⟩ := List.mem_map.mp isIn
        obtain ⟨isPiece, notEmpty⟩ := List.mem_filter.mp isKept
        obtain ⟨piece, isPart, trimmed⟩ := List.mem_map.mp isPiece
        refine ⟨?_, piece, isPart, ?_⟩
        · rintro nameless
          rw [← String.toList_inj, String.toList_ofList] at nameless
          rw [nameless] at notEmpty
          cases notEmpty
        · rw [trimmed, String.toList_ofList]
      · rintro ⟨isNamed, piece, isPart, trimmed⟩
        refine List.mem_map.mpr ⟨name.toList, List.mem_filter.mpr ⟨?_, ?_⟩,
          String.ofList_toList⟩
        · exact List.mem_map.mpr ⟨piece, isPart, trimmed⟩
        · simpa using isNamed
    simp [all, named]

/-! ## Names that are on -/

variable {flags : DebugFlags} {name : String}

theorem mem_foldl_enable {names : List String} :
    name ∈ (names.foldl enable flags).enabled ↔ name ∈ names ∨ name ∈ flags.enabled := by
  induction names generalizing flags with
  | nil => simp
  | cons first rest ih =>
      rw [List.foldl_cons, ih, mem_enable, List.mem_cons]
      constructor
      · rintro (isLater | isFirst | isOn)
        · exact .inl (.inr isLater)
        · exact .inl (.inl isFirst)
        · exact .inr isOn
      · rintro ((isFirst | isLater) | isOn)
        · exact .inr (.inl isFirst)
        · exact .inl isLater
        · exact .inr (.inr isOn)

theorem mergeArgument_eq (flags : DebugFlags) (argument : String) :
    flags.mergeArgument argument = (argumentNames argument).foldl enable flags := by
  unfold mergeArgument argumentNames flagName?
  split
  · rfl
  · cases debugFlagPrefix.toList.isPrefixOf? argument.toList <;> rfl

theorem mergeValue_eq (flags : DebugFlags) (value : String) :
    flags.mergeValue value = (valueNames value).foldl enable flags := by
  unfold mergeValue valueNames
  split
  · rfl
  · generalize (splitAtChar ',' value.toList).map trimChars = pieces
    induction pieces generalizing flags with
    | nil => rfl
    | cons piece rest ih =>
        rw [List.foldl_cons, ih, List.filter_cons]
        cases piece with
        | nil => rfl
        | cons first others => rfl

theorem ofArguments_eq (arguments : List String) :
    ofArguments arguments = (arguments.flatMap argumentNames).foldl enable off := by
  have merges : mergeArgument = fun flags argument => (argumentNames argument).foldl enable flags :=
    funext fun flags => funext (mergeArgument_eq flags)
  rw [List.foldl_flatMap, ofArguments, merges]

/-- Arguments and variable switch on what they name, and nothing else. -/
theorem ofProcess_eq (arguments : List String) (environment : Environment) :
    ofProcess arguments environment = (processNames arguments environment).foldl enable off := by
  unfold ofProcess processNames
  rw [List.foldl_append, ← ofArguments_eq]
  cases environment.get? debugVariable with
  | none => rfl
  | some value => exact mergeValue_eq _ value

theorem mem_ofProcess {arguments : List String} {environment : Environment} :
    name ∈ (ofProcess arguments environment).enabled ↔
      name ∈ processNames arguments environment := by
  rw [ofProcess_eq, mem_foldl_enable]
  simp

theorem mem_processNames {arguments : List String} {environment : Environment} :
    name ∈ processNames arguments environment ↔
      (∃ argument ∈ arguments, name ∈ argumentNames argument) ∨
        ∃ value, environment.get? debugVariable = some value ∧ name ∈ valueNames value := by
  unfold processNames
  rw [List.mem_append, List.mem_flatMap]
  cases environment.get? debugVariable <;> simp

/-! ## Names that are missing -/

/-- Only the start of a flag switches on a component without a name. -/
theorem nameless_mem_ofProcess {arguments : List String} {environment : Environment} :
    "" ∈ (ofProcess arguments environment).enabled ↔ debugFlagPrefix ∈ arguments := by
  have known : "" ∉ knownComponents := by decide
  rw [mem_ofProcess, mem_processNames]
  constructor
  · rintro (⟨argument, isArgument, isNamed⟩ | ⟨value, -, isNamed⟩)
    · obtain ⟨-, impossible⟩ | ⟨-, rfl⟩ := mem_argumentNames.mp isNamed
      · exact absurd impossible known
      · rwa [String.append_empty] at isArgument
    · obtain ⟨-, impossible⟩ | ⟨-, impossible, -⟩ := mem_valueNames.mp isNamed
      · exact absurd impossible known
      · exact absurd rfl impossible
  · intro isArgument
    refine Or.inl ⟨_, isArgument, mem_argumentNames.mpr (Or.inr ⟨by decide, ?_⟩)⟩
    exact String.append_empty.symm

end DebugFlags

end TaskLink
