import Mathlib.Data.List.Basic
import Mathlib.Data.List.TakeWhile
import TaskLink.Configuration.Overrides
import TaskLink.Tool.Arguments

/-!
# What a command line states

The value of a flag is the argument after it, or what stands after an equals
sign.  This is read off the arguments here without any order among flags and
actions, and compared with what the reader of command lines hands on.
-/

namespace TaskLink

/-! ## Stated values -/

def statedValue? (flag : String) : List String → Option String
  | [] => none
  | argument :: rest =>
      if argument = "--" ++ flag then rest.head?
      else
        match ("--" ++ flag ++ "=").toList.isPrefixOf? argument.toList with
        | some value => some (String.ofList value)
        | none => statedValue? flag rest

structure IsFlagName (flag : String) : Prop where
  named : flag.toList ≠ []
  unassigned : '=' ∉ flag.toList

/-! ## Forms of arguments -/

section Forms

variable {name : List Char}

theorem apart_of_unassigned (unassigned : '=' ∉ name) : ∀ c ∈ name, (c != '=') = true := by
  intro c isIn
  simp only [bne_iff_ne, ne_eq]
  intro same
  exact unassigned (same ▸ isIn)

/-- What is before an equals sign is the flag, and what is after it the value. -/
theorem splitAttached_assigned (unassigned : '=' ∉ name) (value : List Char) :
    splitAttached (name ++ '=' :: value) = (String.ofList name, some (String.ofList value)) := by
  have apart := apart_of_unassigned unassigned
  simp [splitAttached, List.takeWhile_append_of_pos apart, List.dropWhile_append_of_pos apart]

theorem splitAttached_bare (unassigned : '=' ∉ name) :
    splitAttached name = (String.ofList name, none) := by
  have apart := apart_of_unassigned unassigned
  rw [splitAttached, List.takeWhile_eq_self_iff.mpr apart, List.dropWhile_eq_nil_iff.mpr apart]

/-- Before the first equals sign, texts are equal if the texts are. -/
theorem eq_of_assigned {other value otherValue : List Char} (unassigned : '=' ∉ name)
    (otherUnassigned : '=' ∉ other) (same : name ++ '=' :: value = other ++ '=' :: otherValue) :
    name = other ∧ value = otherValue := by
  have split := congrArg splitAttached same
  rw [splitAttached_assigned unassigned, splitAttached_assigned otherUnassigned] at split
  simpa [← String.toList_inj] using split

theorem argumentForm_of_dashes {argument : String} {text : List Char}
    (isDashed : argument.toList = '-' :: '-' :: text) (named : text ≠ []) :
    argumentForm argument = .long (splitAttached text).1 (splitAttached text).2 := by
  unfold argumentForm
  rw [isDashed]
  cases text with
  | nil => exact absurd rfl named
  | cons c rest => rfl

theorem argumentForm_ne_long {argument : String}
    (plain : ∀ text, argument.toList = '-' :: '-' :: text → text = []) (flag : String)
    (attached : Option String) : argumentForm argument ≠ .long flag attached := by
  unfold argumentForm
  split
  · simp
  · next rest notEscape isDashed => exact absurd (plain rest isDashed) notEscape
  · simp
  · simp

end Forms

/-! ## Stated values by form -/

section Stated

variable {flag argument : String} {rest : List String}

theorem eq_flag_iff : argument = "--" ++ flag ↔ argument.toList = '-' :: '-' :: flag.toList := by
  rw [← String.toList_inj, String.toList_append]
  rfl

theorem isAssigned_iff {value : List Char} :
    ("--" ++ flag ++ "=").toList.isPrefixOf? argument.toList = some value ↔
      argument.toList = '-' :: '-' :: (flag.toList ++ '=' :: value) := by
  rw [List.isPrefixOf?_eq_some_iff_append_eq, String.toList_append, String.toList_append, eq_comm]
  simp

theorem statedValue?_of_plain (isName : IsFlagName flag)
    (plain : ∀ text, argument.toList = '-' :: '-' :: text → text = []) :
    statedValue? flag (argument :: rest) = statedValue? flag rest := by
  have notBare : argument ≠ "--" ++ flag := fun same =>
    isName.named (plain _ (eq_flag_iff.mp same))
  have notAssigned : ("--" ++ flag ++ "=").toList.isPrefixOf? argument.toList = none := by
    rw [Option.eq_none_iff_forall_ne_some]
    intro value same
    simpa using plain _ (isAssigned_iff.mp same)
  rw [statedValue?, if_neg notBare, notAssigned]

/-- A long flag states its own value, which is attached to it or follows it. -/
theorem statedValue?_of_long (isName : IsFlagName flag) {other : String}
    {attached : Option String} (form : argumentForm argument = .long other attached) :
    statedValue? flag (argument :: rest) =
      if other = flag then attached.or rest.head? else statedValue? flag rest := by
  by_cases plain : ∀ text, argument.toList = '-' :: '-' :: text → text = []
  · exact absurd form (argumentForm_ne_long plain other attached)
  obtain ⟨text, isDashed, named⟩ : ∃ text, argument.toList = '-' :: '-' :: text ∧ text ≠ [] := by
    simpa using plain
  rw [argumentForm_of_dashes isDashed named] at form
  rw [statedValue?]
  by_cases assigned : '=' ∈ text
  · obtain ⟨name, value, rfl, unassigned⟩ := List.eq_append_cons_of_mem assigned
    rw [splitAttached_assigned unassigned] at form
    cases form
    have notBare : argument ≠ "--" ++ flag := by
      rw [Ne, eq_flag_iff, isDashed]
      intro same
      have same : name ++ '=' :: value = flag.toList := by simpa using same
      exact isName.unassigned (same ▸ by simp)
    rw [if_neg notBare]
    by_cases same : String.ofList name = flag
    · have found : ("--" ++ flag ++ "=").toList.isPrefixOf? argument.toList = some value := by
        rw [isAssigned_iff, isDashed, ← same, String.toList_ofList]
      rw [found, if_pos same]
      rfl
    · have missed : ("--" ++ flag ++ "=").toList.isPrefixOf? argument.toList = none := by
        rw [Option.eq_none_iff_forall_ne_some]
        intro other found
        rw [isAssigned_iff, isDashed] at found
        have texts : name ++ '=' :: value = flag.toList ++ '=' :: other := by simpa using found
        have names := (eq_of_assigned unassigned isName.unassigned texts).1
        exact same (by rw [names, String.ofList_toList])
      rw [missed, if_neg same]
  · rw [splitAttached_bare assigned] at form
    cases form
    have notAssigned : ("--" ++ flag ++ "=").toList.isPrefixOf? argument.toList = none := by
      rw [Option.eq_none_iff_forall_ne_some]
      intro value found
      rw [isAssigned_iff, isDashed] at found
      have texts : text = flag.toList ++ '=' :: value := by simpa using found
      exact assigned (texts ▸ by simp)
    have bare : argument = "--" ++ flag ↔ String.ofList text = flag := by
      rw [eq_flag_iff, isDashed, ← String.toList_inj, String.toList_ofList]
      simp
    rw [notAssigned]
    simp only [bare, Option.none_or]

theorem statedValue?_of_form (isName : IsFlagName flag)
    (notLong : ∀ other attached, argumentForm argument ≠ .long other attached) :
    statedValue? flag (argument :: rest) = statedValue? flag rest := by
  apply statedValue?_of_plain isName
  intro text isDashed
  by_contra named
  exact notLong _ _ (argumentForm_of_dashes isDashed named)

end Stated

/-! ## Values that are handed on -/

def IsTextFlag (flag : String) : Prop :=
  flag = "config" ∨ overrideFlags.lookup flag = some .text

theorem isFlagName_of_isText {flag : String} (isText : IsTextFlag flag) : IsFlagName flag := by
  rcases isText with rfl | isText
  · exact ⟨by decide, by decide⟩
  · obtain ⟨before, after, same, -⟩ := List.lookup_eq_some_iff.mp isText
    have isIn : (flag, FlagKind.text) ∈ overrideFlags := by simp [same]
    have areNames : ∀ entry ∈ overrideFlags, entry.1.toList ≠ [] ∧ '=' ∉ entry.1.toList := by
      decide
    exact ⟨(areNames _ isIn).1, (areNames _ isIn).2⟩

theorem ne_of_isText {flag other : String} (isText : IsTextFlag flag)
    (notText : other ≠ "config" ∧ overrideFlags.lookup other ≠ some .text) : other ≠ flag := by
  rintro rfl
  exact isText.elim notText.1 notText.2

/-- A value of a text flag is accepted as it is or not at all. -/
theorem accepted_of_isText {flag value accepted : String} {kind : FlagKind}
    (isText : IsTextFlag flag) (isKind : flagKind? flag = some kind)
    (accepts : kind.accept? value = some accepted) : accepted = value := by
  have isTextKind : kind = .path ∨ kind = .text := by
    rcases isText with rfl | isText
    · exact .inl (Option.some.inj isKind).symm
    · unfold flagKind? at isKind
      split at isKind
      · exact .inl (Option.some.inj isKind).symm
      · split at isKind
        · exact .inr (Option.some.inj isKind).symm
        · exact .inr (Option.some.inj (isKind.symm.trans isText))
  rcases isTextKind with rfl | rfl
  · exact (Option.some.inj (Option.ite_none_left_eq_some.mp accepts).2).symm
  · exact (Option.some.inj accepts).symm

namespace ToolFlags

def value? (flags : ToolFlags) (flag : String) : Option String :=
  if flag = "config" then flags.configuration
  else Configuration.flagValue? flags.overrides flag

variable {flags after : ToolFlags} {flag value wanted : String} {kind : FlagKind}

theorem value?_config : flags.value? "config" = flags.configuration := by
  simp [value?]

theorem value?_override (isOverride : wanted ≠ "config") :
    flags.value? wanted = Configuration.flagValue? flags.overrides wanted := by
  simp [value?, isOverride]

/-- A value that is added is the one of its flag, which had none. -/
theorem value?_addValue (isText : IsTextFlag wanted)
    (added : flags.addValue flag value = .ok after) :
    after.value? wanted =
      (flags.value? wanted).or (if flag = wanted then some value else none) := by
  unfold addValue at added
  simp only [beq_iff_eq] at added
  split at added
  · next isDebug =>
      cases added
      have different : flag ≠ wanted := by
        rw [isDebug]
        exact ne_of_isText isText (by decide)
      simp [value?, different]
  · split at added
    · next isConfig =>
        split at added
        · cases added
        · next absent =>
            cases added
            simp only [Option.isSome_iff_ne_none, ne_eq, not_not] at absent
            by_cases same : wanted = "config"
            · simp [value?, same, isConfig, absent]
            · simp [value?, same, isConfig, Ne.symm same]
    · next notConfig =>
        split at added
        · cases added
        · cases added
          by_cases same : wanted = "config"
          · subst same
            simp [value?, notConfig]
          · simp only [value?, if_neg same, Configuration.flagValue?, List.find?_append,
              List.find?_cons, List.find?_nil]
            cases flags.overrides.find? fun given => given.1 == wanted with
            | some found => simp
            | none => by_cases isWanted : flag = wanted <;> simp [isWanted, beq_false_of_ne]

/-- The value of a text flag is handed on as it is. -/
theorem value?_give (isText : IsTextFlag wanted) (isKind : flagKind? flag = some kind)
    (given : flags.give flag kind value = .ok after) :
    after.value? wanted =
      (flags.value? wanted).or (if flag = wanted then some value else none) := by
  unfold give at given
  cases accepts : kind.accept? value with
  | none =>
      rw [accepts] at given
      cases given
  | some accepted =>
      rw [accepts] at given
      rw [value?_addValue isText given]
      by_cases same : flag = wanted
      · subst same
        rw [accepted_of_isText isText isKind accepts]
      · simp [same]

theorem value?_giveDebugAll (given : flags.giveDebugAll = .ok after) :
    after.value? wanted = flags.value? wanted := by
  unfold giveDebugAll at given
  split at given <;> cases given
  rfl

end ToolFlags

/-! ## Reading command lines -/

/-- No command is read from the arguments of the other actions. -/
theorem readHeartbeat_ne_command (flags after : ToolFlags) (arguments : List String)
    (name : Option String) : readHeartbeat flags arguments ≠ .ok (.run after (.command name)) := by
  fun_cases readHeartbeat flags arguments <;> simp

theorem readHelp_ne_command (after : ToolFlags) (arguments : List String) (name : Option String) :
    readHelp arguments ≠ .ok (.run after (.command name)) := by
  fun_cases readHelp arguments <;> simp

theorem isFlagName_name : IsFlagName "name" :=
  ⟨by decide, by decide⟩

/-- A value that stands apart from its flag states nothing itself. -/
theorem statedValue?_of_separate {flag value : String} {rest : List String}
    (isName : IsFlagName flag) (separate : isSeparateValue value = true) :
    statedValue? flag (value :: rest) = statedValue? flag rest := by
  apply statedValue?_of_form isName
  intro other attached form
  rw [isSeparateValue, form] at separate
  simp at separate

/-- After the action only the name of the command is stated. -/
theorem readCommand_states {flags after : ToolFlags} {arguments : List String}
    {given name : Option String}
    (isRead : readCommand flags given arguments = .ok (.run after (.command name))) :
    after = flags ∧ name = given.or (statedValue? "name" arguments) ∧
      ∀ wanted, IsTextFlag wanted → statedValue? wanted arguments = none := by
  have notName {wanted : String} (isText : IsTextFlag wanted) : "name" ≠ wanted :=
    ne_of_isText isText (by decide)
  fun_induction readCommand flags given arguments with
  | case1 given =>
      cases isRead
      exact ⟨rfl, by simp [statedValue?], fun wanted isText => rfl⟩
  | case3 given argument rest value form absent ih =>
      obtain ⟨same, named, others⟩ := ih isRead
      refine ⟨same, ?_, fun wanted isText => ?_⟩
      · rw [statedValue?_of_long isFlagName_name form]
        simp_all
      · rw [statedValue?_of_long (isFlagName_of_isText isText) form, if_neg (notName isText)]
        exact others wanted isText
  | case6 given argument form value rest separate absent ih =>
      obtain ⟨same, named, others⟩ := ih isRead
      have separate : isSeparateValue value = true := by simpa using separate
      refine ⟨same, ?_, fun wanted isText => ?_⟩
      · rw [statedValue?_of_long isFlagName_name form]
        simp_all
      · have isName := isFlagName_of_isText isText
        rw [statedValue?_of_long isName form, if_neg (notName isText),
          statedValue?_of_separate isName separate]
        exact others wanted isText
  | case10 given argument form =>
      cases isRead
      have notLong : ∀ other attached, argumentForm argument ≠ .long other attached := by
        simp [form]
      refine ⟨rfl, ?_, fun wanted isText => ?_⟩
      · rw [statedValue?_of_form isFlagName_name notLong]
        simp [statedValue?]
      · exact statedValue?_of_form (isFlagName_of_isText isText) notLong
  | _ => cases isRead

/-- What a reader has before some arguments and after them, by what they state. -/
structure HandsOn (flags after : ToolFlags) (name : Option String) (arguments : List String) :
    Prop where
  name : name = statedValue? "name" arguments
  values : ∀ wanted, IsTextFlag wanted →
    after.value? wanted = (flags.value? wanted).or (statedValue? wanted arguments)

namespace HandsOn

variable {flags middle after : ToolFlags} {name : Option String} {argument flag value : String}
  {attached : Option String} {kind : FlagKind} {rest : List String}

theorem give (form : argumentForm argument = .long flag attached)
    (isKind : flagKind? flag = some kind) (given : flags.give flag kind value = .ok middle)
    {following : List String} (isValue : attached.or following.head? = some value)
    (others : ∀ {wanted}, IsFlagName wanted →
      statedValue? wanted following = statedValue? wanted rest)
    (handsOn : HandsOn middle after name rest) :
    HandsOn flags after name (argument :: following) where
  name := by
    have different : flag ≠ "name" := by
      rintro rfl
      cases isKind
    rw [statedValue?_of_long isFlagName_name form, if_neg different, others isFlagName_name]
    exact handsOn.name
  values wanted isText := by
    have isName := isFlagName_of_isText isText
    rw [handsOn.values wanted isText, ToolFlags.value?_give isText isKind given,
      statedValue?_of_long isName form, isValue, others isName, Option.or_assoc]
    by_cases same : flag = wanted <;> simp [same]

end HandsOn

/-- Before a command there is an action, a flag that switches all, or a flag with a value. -/
theorem readArguments_cons {flags after : ToolFlags} {argument : String} {rest : List String}
    {name : Option String}
    (isRead : readArguments flags (argument :: rest) = .ok (.run after (.command name))) :
    (argumentForm argument = .plain ∧
        readCommand flags none rest = .ok (.run after (.command name))) ∨
      (∃ middle, argumentForm argument = .long "debug-all" none ∧
        flags.giveDebugAll = .ok middle ∧
        readArguments middle rest = .ok (.run after (.command name))) ∨
      ∃ flag attached kind value middle following,
        argumentForm argument = .long flag attached ∧ flagKind? flag = some kind ∧
          flags.give flag kind value = .ok middle ∧
          readArguments middle following = .ok (.run after (.command name)) ∧
          (attached = some value ∧ rest = following ∨
            attached = none ∧ isSeparateValue value = true ∧ rest = value :: following) := by
  rw [readArguments] at isRead
  split at isRead
  · next form =>
      split_ifs at isRead
      · exact absurd isRead (readHeartbeat_ne_command _ _ _ _)
      · exact .inl ⟨form, isRead⟩
      · exact absurd isRead (readHelp_ne_command _ _ _)
  iterate 6 cases isRead
  · next form =>
      split at isRead
      · next middle given => exact .inr (.inl ⟨middle, form, given, isRead⟩)
      · cases isRead
  · next flag attached _ _ _ form =>
      split at isRead
      · cases isRead
      · split at isRead
        · next given =>
            exact .inr (.inr ⟨_, _, _, _, _, _, form, ‹_›, given, isRead, .inl ⟨rfl, rfl⟩⟩)
        · cases isRead
      · cases isRead
      · split_ifs at isRead with separate
        split at isRead
        · next given =>
            exact .inr (.inr
              ⟨_, _, _, _, _, _, form, ‹_›, given, isRead, .inr ⟨rfl, separate, rfl⟩⟩)
        · cases isRead

theorem readArguments_handsOn {flags after : ToolFlags} {arguments : List String}
    {name : Option String}
    (isRead : readArguments flags arguments = .ok (.run after (.command name))) :
    HandsOn flags after name arguments := by
  -- A flag may take the argument after it, so the induction is on how many there are.
  induction count : arguments.length using Nat.strongRecOn generalizing flags arguments with
  | ind count ih =>
  subst count
  cases arguments with
  | nil => cases isRead
  | cons argument rest =>
      rcases readArguments_cons isRead with ⟨form, isRead⟩ | ⟨middle, form, given, isRead⟩ |
        ⟨flag, attached, kind, value, middle, following, form, isKind, given, later, isValue⟩
      · have notLong : ∀ other attached, argumentForm argument ≠ .long other attached := by
          simp [form]
        obtain ⟨rfl, named, others⟩ := readCommand_states isRead
        constructor
        · rw [statedValue?_of_form isFlagName_name notLong, named, Option.none_or]
        · intro wanted isText
          rw [statedValue?_of_form (isFlagName_of_isText isText) notLong, others wanted isText,
            Option.or_none]
      · obtain ⟨named, values⟩ := ih rest.length (by simp) isRead rfl
        constructor
        · rw [statedValue?_of_long isFlagName_name form, if_neg (by decide), named]
        · intro wanted isText
          rw [statedValue?_of_long (isFlagName_of_isText isText) form,
            if_neg (ne_of_isText isText (by decide)), values wanted isText,
            ToolFlags.value?_giveDebugAll given]
      · rcases isValue with ⟨rfl, rfl⟩ | ⟨rfl, separate, rfl⟩
        · have handsOn := ih rest.length (by simp) later rfl
          exact handsOn.give form isKind given rfl fun _ => rfl
        · have fewer : following.length < (argument :: value :: following).length := by
            simp only [List.length_cons]
            omega
          have handsOn := ih following.length fewer later rfl
          exact handsOn.give form isKind given rfl fun isName =>
            statedValue?_of_separate isName separate

/-- A command line that asks for a command hands on the values that it states. -/
theorem ToolRequest.ofArguments_states {arguments : List String} {flags : ToolFlags}
    {name : Option String}
    (asks : ToolRequest.ofArguments arguments = .ok (.run flags (.command name))) :
    name = statedValue? "name" arguments ∧
      flags.configuration = statedValue? "config" arguments ∧
      ∀ flag, overrideFlags.lookup flag = some .text →
        Configuration.flagValue? flags.overrides flag = statedValue? flag arguments := by
  obtain ⟨named, values⟩ := readArguments_handsOn asks
  have start {wanted : String} : ({} : ToolFlags).value? wanted = none := by
    simp [ToolFlags.value?, Configuration.flagValue?]
  refine ⟨named, ?_, fun flag isText => ?_⟩
  · have configured := values "config" (.inl rfl)
    rwa [ToolFlags.value?_config, start, Option.none_or] at configured
  · have overridden := values flag (.inr isText)
    have different : flag ≠ "config" := by
      rintro rfl
      cases isText
    rwa [ToolFlags.value?_override different, start, Option.none_or] at overridden

end TaskLink
