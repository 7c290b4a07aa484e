import TaskLink.Log.Filter
import TaskLink.Proofs.Log.EnabledNames
import TaskLink.Proofs.Text.Separators

/-!
# Filters of debug flags

The filter that debug flags make is read back as one directive for each
component that is on and then the directives of the base level.  If all names
are plain, only a component without a name makes a bad directive, and such a
component is on exactly if an argument is the mere start of a flag.
-/

namespace TaskLink

namespace DebugFlags

def directive (name : String) : List Char :=
  (target name).toList ++ "=debug".toList

theorem toList_filterText (flags : DebugFlags) (baseLevel : String) :
    (flags.filterText baseLevel).toList =
      [','].intercalate (flags.enabled.map directive ++ [baseLevel.toList]) := by
  have spelled : String.toList ∘ (fun name => target name ++ "=debug") = directive :=
    funext fun name => String.toList_append
  unfold filterText
  rw [String.toList_intercalate, List.map_append, List.map_map, spelled]
  rfl

/-! ## Plain names -/

def isPlainChar (c : Char) : Bool :=
  c.isAlphanum || c == '-' || c == '_'

/-- Letters, digits, dashes and underscores, or nothing at all. -/
def IsPlain (name : List Char) : Prop :=
  ∀ c ∈ name, isPlainChar c = true

instance (name : List Char) : Decidable (IsPlain name) :=
  decidable_of_iff (name.all isPlainChar = true) List.all_eq_true

/-- A letter or digit is neither blank nor one of the characters with a meaning in filters. -/
theorem alphanumeric_cases {c : Char} (alphanumeric : c.isAlphanum = true) :
    isBlank c = false ∧ c ≠ ',' ∧ c ≠ '=' ∧ c ≠ '[' := by
  change ((decide ('A' ≤ c ∧ c ≤ 'Z') || (decide ('a' ≤ c) && decide (c ≤ 'z'))) ||
    (decide ('0' ≤ c) && decide (c ≤ '9'))) = true at alphanumeric
  simp only [Bool.or_eq_true, Bool.and_eq_true, decide_eq_true_eq] at alphanumeric
  change ((65 ≤ c.toNat ∧ c.toNat ≤ 90) ∨ (97 ≤ c.toNat ∧ c.toNat ≤ 122)) ∨
    (48 ≤ c.toNat ∧ c.toNat ≤ 57) at alphanumeric
  refine ⟨?_, ?_, ?_, ?_⟩
  · simp only [isBlank, blankRanges, List.any_cons, List.any_nil, Bool.or_false,
      Bool.or_eq_false_iff, Bool.and_eq_false_iff, decide_eq_false_iff_not]
    omega
  all_goals
    rintro rfl
    exact absurd alphanumeric (by decide)

/-- What a character of a plain name becomes in the target. -/
theorem targetChar_cases (library : LogLibrary) {c : Char} (isPlain : isPlainChar c = true) :
    let shown := if c == '-' then '_' else c
    startsWord library shown = true ∧ isBlank shown = false ∧
      shown ≠ ',' ∧ shown ≠ '=' ∧ shown ≠ '[' := by
  unfold isPlainChar at isPlain
  rw [Bool.or_eq_true, Bool.or_eq_true, beq_iff_eq, beq_iff_eq] at isPlain
  obtain (alphanumeric | rfl) | rfl := isPlain
  · have notDash : c ≠ '-' := by
      rintro rfl
      cases alphanumeric
    have same : (if c == '-' then '_' else c) = c := if_neg (by simpa using notDash)
    rw [same]
    exact ⟨by simp [startsWord, alphanumeric], alphanumeric_cases alphanumeric⟩
  · exact ⟨rfl, by decide⟩
  · exact ⟨rfl, by decide⟩

/-- The characters of a plain name's target mean nothing in a filter but themselves. -/
theorem mem_target (library : LogLibrary) {name : String} (isPlain : IsPlain name.toList)
    {c : Char} (isIn : c ∈ (target name).toList) :
    startsWord library c = true ∧ isBlank c = false ∧ c ≠ ',' ∧ c ≠ '=' ∧ c ≠ '[' := by
  unfold target at isIn
  rw [String.toList_ofList] at isIn
  obtain ⟨written, isWritten, rfl⟩ := List.mem_map.mp isIn
  exact targetChar_cases library (isPlain written isWritten)

theorem target_eq_empty_iff {name : String} : target name = "" ↔ name = "" := by
  unfold target
  rw [← String.toList_inj, ← String.toList_inj, String.toList_ofList]
  exact List.map_eq_nil_iff

/-! ## Directives -/

/-- A text without blank characters is left as it is. -/
theorem trimChars_of_not_isBlank {text : List Char} (solid : ∀ c ∈ text, isBlank c = false) :
    trimChars text = text := by
  have kept {chars : List Char} (solid : ∀ c ∈ chars, isBlank c = false) :
      chars.dropWhile isBlank = chars := by
    cases chars with
    | nil => rfl
    | cons first rest => rw [List.dropWhile_cons_of_neg]; simp [solid first]
  rw [trimChars, kept solid, kept, List.reverse_reverse]
  exact fun c isIn => solid c (List.mem_reverse.mp isIn)

theorem not_isBlank_of_mem_directive {name : String} (isPlain : IsPlain name.toList) :
    ∀ c ∈ directive name, isBlank c = false := by
  intro c isIn
  obtain isTarget | isLevel := List.mem_append.mp isIn
  · exact (mem_target {} isPlain isTarget).2.1
  · have solid : "=debug".toList.all (fun c => !isBlank c) = true := by decide
    simpa using List.all_eq_true.mp solid c isLevel

theorem comma_notMem_directive {name : String} (isPlain : IsPlain name.toList) :
    ',' ∉ directive name := by
  intro isIn
  obtain isTarget | isLevel := List.mem_append.mp isIn
  · exact (mem_target {} isPlain isTarget).2.2.1 rfl
  · exact absurd isLevel (by decide)

/-- The directive of a plain name is good exactly if it has a target. -/
theorem isDirective_directive_iff (library : LogLibrary) {name : String}
    (isPlain : IsPlain name.toList) :
    isDirective library (directive name) = true ↔ target name ≠ "" := by
  unfold isDirective
  rw [trimChars_of_not_isBlank (not_isBlank_of_mem_directive isPlain), directive]
  cases chars : (target name).toList with
  | nil =>
      have nameless : target name = "" := String.toList_inj.mp chars
      rw [nameless]
      exact iff_of_false Bool.false_ne_true fun named => named rfl
  | cons first rest =>
      have isIn {c : Char} (isTarget : c ∈ first :: rest) := mem_target library isPlain (chars ▸ isTarget)
      have named : target name ≠ "" := by
        intro nameless
        rw [nameless] at chars
        cases chars
      -- Up to the first equals sign there is nothing but the target.
      have level : (rest ++ "=debug".toList).dropWhile (fun c => c != '=' && c != '[') =
          "=debug".toList := by
        rw [List.dropWhile_append_of_pos]
        · rfl
        · intro c isRest
          simpa using (isIn (List.mem_cons_of_mem _ isRest)).2.2.2
      have isLevel : endsDirective library "=debug".toList = true := by
        change isLevelWord "debug".toList = true
        decide
      obtain ⟨starts, -, -, -, notBracket⟩ := isIn List.mem_cons_self
      rw [List.cons_append]
      split
      · next none => cases none
      · next bracket => exact absurd (List.cons.inj bracket).1 notBracket
      · next same =>
          obtain ⟨rfl, rfl⟩ := List.cons.inj same
          rw [level, starts]
          exact iff_of_true isLevel named

/-! ## Filters -/

variable (library : LogLibrary) {flags : DebugFlags} {baseLevel : String}

/-- The parts of a filter are the directives of the flags and the parts of the base level. -/
theorem splitAtChar_filterText (plain : ∀ name ∈ flags.enabled, IsPlain name.toList) :
    splitAtChar ',' (flags.filterText baseLevel).toList =
      flags.enabled.map directive ++ splitAtChar ',' baseLevel.toList := by
  rw [toList_filterText, splitAtChar_intercalate]
  intro piece isPiece
  obtain ⟨name, isOn, rfl⟩ := List.mem_map.mp isPiece
  exact comma_notMem_directive (plain name isOn)

/-- The filter is good exactly if the base level is and no component without a name is on. -/
theorem isFilter_filterText_iff (plain : ∀ name ∈ flags.enabled, IsPlain name.toList) :
    isFilter library (flags.filterText baseLevel) = true ↔
      "" ∉ flags.enabled ∧ isFilter library baseLevel = true := by
  unfold isFilter
  rw [splitAtChar_filterText plain, List.all_append, Bool.and_eq_true, List.all_map,
    List.all_eq_true]
  refine and_congr_left fun _ => ?_
  have good {name : String} (isOn : name ∈ flags.enabled) :
      ((directive name).isEmpty || isDirective library (directive name)) = true ↔ name ≠ "" := by
    have written : (directive name).isEmpty = false := by
      rw [List.isEmpty_eq_false_iff]
      exact List.append_ne_nil_of_right_ne_nil _ (by decide)
    rw [written, Bool.false_or, isDirective_directive_iff library (plain name isOn), Ne,
      target_eq_empty_iff]
  constructor
  · intro all nameless
    exact (good nameless).mp (all "" nameless) rfl
  · intro named name isOn
    refine (good isOn).mpr ?_
    rintro rfl
    exact named isOn

/-! ## Flags of a process -/

structure GivesPlainNames (arguments : List String) (environment : Environment) : Prop where
  flags : ∀ name, debugFlagPrefix ++ name ∈ arguments → IsPlain name.toList
  pieces : ∀ value, environment.get? debugVariable = some value →
    ∀ piece ∈ splitAtChar ',' value.toList, IsPlain (trimChars piece)

theorem givesPlainNames_iff {arguments : List String} {environment : Environment} :
    GivesPlainNames arguments environment ↔
      (∀ argument ∈ arguments, ∀ name ∈ flagName? argument, IsPlain name.toList) ∧
        ∀ value ∈ environment.get? debugVariable,
          ∀ piece ∈ splitAtChar ',' value.toList, IsPlain (trimChars piece) := by
  constructor
  · intro plain
    refine ⟨fun argument isArgument name isName => ?_, plain.pieces⟩
    rw [flagName?_eq_some_iff.mp isName] at isArgument
    exact plain.flags name isArgument
  · rintro ⟨flags, pieces⟩
    exact ⟨fun name isFlag => flags _ isFlag name (flagName?_eq_some_iff.mpr rfl), pieces⟩

instance (arguments : List String) (environment : Environment) :
    Decidable (GivesPlainNames arguments environment) :=
  decidable_of_iff' _ givesPlainNames_iff

def LeavesDirectives (environment : Environment) : Prop :=
  ∀ directives ∈ environment.get? directivesVariable, allBlank directives = true

instance (environment : Environment) : Decidable (LeavesDirectives environment) :=
  inferInstanceAs (Decidable (∀ directives ∈ environment.get? directivesVariable, _))

theorem GivesPlainNames.isPlain {arguments : List String} {environment : Environment}
    (plain : GivesPlainNames arguments environment) :
    ∀ name ∈ (ofProcess arguments environment).enabled, IsPlain name.toList := by
  have known : ∀ name ∈ knownComponents, IsPlain name.toList := by decide
  intro name isOn
  rw [mem_ofProcess, mem_processNames] at isOn
  obtain ⟨argument, isArgument, isNamed⟩ | ⟨value, isValue, isNamed⟩ := isOn
  · obtain ⟨-, isKnown⟩ | ⟨-, rfl⟩ := mem_argumentNames.mp isNamed
    · exact known name isKnown
    · exact plain.flags name isArgument
  · obtain ⟨-, isKnown⟩ | ⟨-, -, piece, isPiece, trimmed⟩ := mem_valueNames.mp isNamed
    · exact known name isKnown
    · exact trimmed ▸ plain.pieces value isValue piece isPiece

theorem chooseFilter_of_leavesDirectives {environment : Environment}
    (leaves : LeavesDirectives environment) (flags : DebugFlags) (baseLevel : String) :
    chooseFilter environment flags baseLevel library =
      if isFilter library (flags.filterText baseLevel) then .ok (flags.filterText baseLevel)
      else .error (.badFilter (flags.filterText baseLevel)) := by
  unfold chooseFilter
  dsimp only
  split
  · next directives isSet => rw [if_pos (leaves directives isSet)]
  · rfl

/--
Plain names and a good base level make a good filter, in which each component
that is on has a directive with a target of its own, unless an argument is the
mere start of a flag: its directive has no target, and the filter is refused.
-/
theorem filter_is_good_unless_nameless {arguments : List String} {environment : Environment}
    {baseLevel : String} {library : LogLibrary} (plain : GivesPlainNames arguments environment)
    (leaves : LeavesDirectives environment) (good : isFilter library baseLevel = true) :
    let flags := ofProcess arguments environment
    let filter := flags.filterText baseLevel
    splitAtChar ',' filter.toList =
        flags.enabled.map directive ++ splitAtChar ',' baseLevel.toList ∧
      (∀ name ∈ flags.enabled, (isDirective library (directive name) = true ↔ target name ≠ "") ∧
        (target name = "" ↔ name = "")) ∧
      ("" ∈ flags.enabled ↔ debugFlagPrefix ∈ arguments) ∧
      chooseFilter environment flags baseLevel library =
        if debugFlagPrefix ∈ arguments then .error (.badFilter filter) else .ok filter := by
  have isPlain := plain.isPlain
  refine ⟨splitAtChar_filterText isPlain, fun name isOn => ?_, nameless_mem_ofProcess, ?_⟩
  · exact ⟨isDirective_directive_iff library (isPlain name isOn), target_eq_empty_iff⟩
  · have isGood :
        isFilter library ((ofProcess arguments environment).filterText baseLevel) = true ↔
          debugFlagPrefix ∉ arguments ∧ isFilter library baseLevel = true := by
      rw [isFilter_filterText_iff library isPlain, nameless_mem_ofProcess]
    rw [chooseFilter_of_leavesDirectives library leaves]
    by_cases nameless : debugFlagPrefix ∈ arguments
    · rw [if_pos nameless, if_neg fun isFilter => (isGood.mp isFilter).1 nameless]
    · rw [if_neg nameless, if_pos (isGood.mpr ⟨nameless, good⟩)]

def blankPieces : Environment :=
  ⟨[(debugVariable, " , ctrlink-config ,,x-1".toUTF8), (directivesVariable, "  ".toUTF8)]⟩

/-- Dashes alone are a name, and blank pieces of the variable are none. -/
theorem filter_is_good_with_blank_pieces :
    GivesPlainNames ["--debug--", "--debug", "--debug-ctrlink_session"] blankPieces ∧
      LeavesDirectives blankPieces ∧ isFilter {} "WARN" = true ∧
      chooseFilter blankPieces
          (ofProcess ["--debug--", "--debug", "--debug-ctrlink_session"] blankPieces) "WARN" =
        .ok "_=debug,ctrlink_config=debug,ctrlink_session=debug,x_1=debug,WARN" := by
  have plain :
      GivesPlainNames ["--debug--", "--debug", "--debug-ctrlink_session"] blankPieces := by
    decide +kernel
  have leaves : LeavesDirectives blankPieces := by decide +kernel
  have good : isFilter {} "WARN" = true := by decide +kernel
  have named :
      debugFlagPrefix ∉ ["--debug--", "--debug", "--debug-ctrlink_session"] := by decide +kernel
  have filter :
      (ofProcess ["--debug--", "--debug", "--debug-ctrlink_session"] blankPieces).filterText
          "WARN" =
        "_=debug,ctrlink_config=debug,ctrlink_session=debug,x_1=debug,WARN" := by
    decide +kernel
  have chosen := (filter_is_good_unless_nameless plain leaves good).2.2.2
  rw [if_neg named, filter] at chosen
  exact ⟨plain, leaves, good, chosen⟩

/-- The mere start of a flag makes a filter that is refused. -/
theorem nameless_flag_spoils_filter :
    GivesPlainNames [debugFlagPrefix] {} ∧ LeavesDirectives {} ∧ isFilter {} "info" = true ∧
      (ofProcess [debugFlagPrefix] {}).enabled = [""] ∧
      chooseFilter {} (ofProcess [debugFlagPrefix] {}) "info" =
        .error (.badFilter "=debug,info") := by
  decide +kernel

end DebugFlags

end TaskLink
