import Mathlib.Data.List.Chain
import TaskLink.Proofs.Configuration.Rules
import TaskLink.Proofs.Text.Separators

/-!
# Violated rules

A configuration that is refused is refused with one entry for each rule that
it violates, in the order of the rules.  No entry is lost, and none is torn:
the lines of the message below its heading are exactly the entries, and the
mark of an entry occurs nowhere else.
-/

namespace TaskLink

namespace Configuration

open DebugFlags (splitAtChar)

/-! ## Rules -/

instance (text : String) : Decidable (HoldsObject text) :=
  decidable_of_iff ((Json.read? text).any JsonTree.isObject = true) <| by
    rw [Option.any_eq_true]
    constructor
    · rintro ⟨tree, isRead, isObject⟩
      obtain ⟨members, rfl⟩ := (isObject_iff tree).mp isObject
      exact ⟨members, isRead⟩
    · rintro ⟨members, isRead⟩
      exact ⟨_, isRead, rfl⟩

inductive Rule where
  | host
  | commandPort
  | heartbeatPort
  | portsDiffer
  | maxAttempts
  | highWaterMark
  | pollInterval
  | taskParameters
  | userInfo
  deriving DecidableEq

namespace Rule

def inOrder : List Rule :=
  [.host, .commandPort, .heartbeatPort, .portsDiffer, .maxAttempts, .highWaterMark,
   .pollInterval, .taskParameters, .userInfo]

/-- A configuration violates a rule; ports that are both zero are no conflict. -/
def IsViolated (configuration : Configuration) : Rule → Prop
  | host => allBlank configuration.controller.host = true
  | commandPort => configuration.ports.commandPort = 0
  | heartbeatPort => configuration.ports.heartbeatPort = 0
  | portsDiffer =>
      configuration.ports.commandPort ≠ 0 ∧
        configuration.ports.commandPort = configuration.ports.heartbeatPort
  | maxAttempts => configuration.discovery.maxAttempts = 0
  | highWaterMark => configuration.sockets.highWaterMark ≤ 0
  | pollInterval => configuration.timeouts.pollIntervalMillis = 0
  | taskParameters => ¬ HoldsObject configuration.session.taskParameters
  | userInfo => ¬ HoldsObject configuration.session.userInfo

instance (configuration : Configuration) : DecidablePred (IsViolated configuration) := fun rule =>
  match rule with
  | host => inferInstanceAs (Decidable (_ = _))
  | commandPort => inferInstanceAs (Decidable (_ = _))
  | heartbeatPort => inferInstanceAs (Decidable (_ = _))
  | portsDiffer => inferInstanceAs (Decidable (_ ∧ _))
  | maxAttempts => inferInstanceAs (Decidable (_ = _))
  | highWaterMark => inferInstanceAs (Decidable (_ ≤ _))
  | pollInterval => inferInstanceAs (Decidable (_ = _))
  | taskParameters => inferInstanceAs (Decidable (¬ _))
  | userInfo => inferInstanceAs (Decidable (¬ _))

def objectReason (text : String) : String :=
  match Json.readOrExplain text with
  | .ok _ => "must be a JSON object"
  | .error explanation => s!"invalid JSON: {explanation}"

def violation (configuration : Configuration) : Rule → Violation
  | host => .missing "controller.host"
  | commandPort => .invalid "ports.command_port" "port 0 cannot be connected to"
  | heartbeatPort => .invalid "ports.heartbeat_port" "port 0 cannot be connected to"
  | portsDiffer =>
      .portConflict "ports.command_port" "ports.heartbeat_port" configuration.ports.commandPort
  | maxAttempts => .invalid "discovery.max_attempts" "must be at least 1"
  | highWaterMark => .invalid "sockets.high_water_mark" "must be positive"
  | pollInterval => .invalid "timeouts.poll_interval_ms" "must be positive"
  | taskParameters =>
      .invalid "session.task_parameters" (objectReason configuration.session.taskParameters)
  | userInfo => .invalid "session.user_info" (objectReason configuration.session.userInfo)

theorem mem_inOrder (rule : Rule) : rule ∈ inOrder := by
  cases rule <;> decide

end Rule

def violatedRules (configuration : Configuration) : List Rule :=
  Rule.inOrder.filter fun rule => rule.IsViolated configuration

theorem mem_violatedRules {configuration : Configuration} {rule : Rule} :
    rule ∈ configuration.violatedRules ↔ rule.IsViolated configuration := by
  simp [violatedRules, Rule.mem_inOrder]

theorem violatedRules_nodup (configuration : Configuration) :
    configuration.violatedRules.Nodup :=
  List.Nodup.sublist List.filter_sublist (by decide)

/-! ## All violations -/

def reported (configuration : Configuration) (rule : Rule) : List Violation :=
  if rule.IsViolated configuration then [rule.violation configuration] else []

theorem when_eq_reported {configuration : Configuration} {condition : Bool} (rule : Rule)
    (same : condition = true ↔ rule.IsViolated configuration) :
    when condition (rule.violation configuration) = reported configuration rule := by
  simp only [when, reported, same]

theorem objectRule_eq (field text : String) :
    objectRule field text =
      if ¬ HoldsObject text then [.invalid field (Rule.objectReason text)] else [] := by
  by_cases holds : HoldsObject text
  · rw [if_neg (not_not_intro holds), (objectRule_eq_nil_iff field text).mpr holds]
  · rw [if_pos holds]
    unfold objectRule Rule.objectReason
    obtain ⟨value, explained, isRead⟩ | ⟨explanation, explained, -⟩ := readOrExplain_cases text
    · have noObject : value.isObject = false := by
        rw [← Bool.not_eq_true, isObject_iff]
        rintro ⟨members, rfl⟩
        exact holds ⟨members, isRead⟩
      simp [explained, noObject, when]
    · rw [explained]

/-- Every rule adds its violation, whatever the other rules add. -/
theorem violations_eq_flatMap (configuration : Configuration) :
    configuration.violations = Rule.inOrder.flatMap (reported configuration) := by
  have host : when (allBlank configuration.controller.host) (.missing "controller.host") =
      configuration.reported .host :=
    when_eq_reported .host Iff.rfl
  have command : portRule "ports.command_port" configuration.ports.commandPort =
      configuration.reported .commandPort :=
    when_eq_reported .commandPort beq_iff_eq
  have heartbeat : portRule "ports.heartbeat_port" configuration.ports.heartbeatPort =
      configuration.reported .heartbeatPort :=
    when_eq_reported .heartbeatPort beq_iff_eq
  have differ :
      when (configuration.ports.commandPort != 0 &&
          configuration.ports.commandPort == configuration.ports.heartbeatPort)
        (.portConflict "ports.command_port" "ports.heartbeat_port"
          configuration.ports.commandPort) =
      configuration.reported .portsDiffer :=
    when_eq_reported .portsDiffer (by simp [Rule.IsViolated])
  have attempts :
      when (configuration.discovery.maxAttempts == 0)
        (.invalid "discovery.max_attempts" "must be at least 1") =
      configuration.reported .maxAttempts :=
    when_eq_reported .maxAttempts beq_iff_eq
  have depth :
      when (configuration.sockets.highWaterMark ≤ 0)
        (.invalid "sockets.high_water_mark" "must be positive") =
      configuration.reported .highWaterMark :=
    when_eq_reported .highWaterMark decide_eq_true_iff
  have poll :
      when (configuration.timeouts.pollIntervalMillis == 0)
        (.invalid "timeouts.poll_interval_ms" "must be positive") =
      configuration.reported .pollInterval :=
    when_eq_reported .pollInterval beq_iff_eq
  have parameters :
      objectRule "session.task_parameters" configuration.session.taskParameters =
      configuration.reported .taskParameters :=
    objectRule_eq _ _
  have user : objectRule "session.user_info" configuration.session.userInfo =
      configuration.reported .userInfo :=
    objectRule_eq _ _
  unfold violations
  dsimp only
  rw [host, command, heartbeat, differ, attempts, depth, poll, parameters, user]
  simp only [Rule.inOrder, List.flatMap_cons, List.flatMap_nil, List.append_nil, List.append_assoc]

theorem map_filter_eq_flatMap {α β : Type} (keep : α → Prop) [DecidablePred keep] (f : α → β)
    (items : List α) :
    (items.filter fun item => keep item).map f =
      items.flatMap fun item => if keep item then [f item] else [] := by
  induction items with
  | nil => rfl
  | cons item rest ih =>
      rw [List.filter_cons, List.flatMap_cons, ← ih]
      by_cases kept : keep item <;> simp [kept]

/-- The violations are those of the violated rules, in order. -/
theorem violations_eq (configuration : Configuration) :
    configuration.violations =
      configuration.violatedRules.map (Rule.violation configuration) := by
  rw [violatedRules, map_filter_eq_flatMap]
  exact violations_eq_flatMap configuration

/-! ## Tidy texts -/

/-- A text is one line in which no two spaces follow each other. -/
structure IsTidy (text : String) : Prop where
  oneLine : '\n' ∉ text.toList
  singleSpaced : text.toList.IsChain fun c next => c = ' ' → next ≠ ' '

theorem isTidy_iff (text : String) :
    IsTidy text ↔
      '\n' ∉ text.toList ∧ text.toList.IsChain fun c next => c = ' ' → next ≠ ' ' :=
  ⟨fun tidy => ⟨tidy.oneLine, tidy.singleSpaced⟩,
    fun ⟨oneLine, singleSpaced⟩ => ⟨oneLine, singleSpaced⟩⟩

instance (text : String) : Decidable (IsTidy text) :=
  decidable_of_iff' _ (isTidy_iff text)

/-- Two tidy texts are joined where one of them has no space. -/
theorem IsTidy.append {text next : String} (tidy : IsTidy text) (nextTidy : IsTidy next)
    (apart : text.toList.getLast? ≠ some ' ' ∨ next.toList.head? ≠ some ' ') :
    IsTidy (text ++ next) where
  oneLine := by
    rw [String.toList_append, List.mem_append]
    rintro (isIn | isIn)
    · exact tidy.oneLine isIn
    · exact nextTidy.oneLine isIn
  singleSpaced := by
    rw [String.toList_append]
    refine List.isChain_append.mpr ⟨tidy.singleSpaced, nextTidy.singleSpaced, ?_⟩
    rintro c isLast d isFirst rfl rfl
    exact apart.elim (fun differs => differs isLast) (fun differs => differs isFirst)

/-- A text can follow the mark of an entry: it is tidy and does not begin with a space. -/
def IsEntryText (text : String) : Prop :=
  IsTidy text ∧ text.toList.head? ≠ some ' '

theorem IsEntryText.append {text next : String} (first : IsEntryText text)
    (second : IsEntryText next) (begun : text ≠ "") : IsEntryText (text ++ next) := by
  refine ⟨first.1.append second.1 (.inr second.2), ?_⟩
  rw [String.toList_append, List.head?_append_of_ne_nil _ (by simpa using begun)]
  exact first.2

/-- A row of characters that spells the text of an entry; unlike a text it needs no decoding. -/
def IsEntryRow (row : List Char) : Prop :=
  '\n' ∉ row ∧ (row.IsChain fun c next => c = ' ' → next ≠ ' ') ∧ row.head? ≠ some ' '

instance (row : List Char) : Decidable (IsEntryRow row) :=
  inferInstanceAs (Decidable (_ ∧ _ ∧ _))

theorem isEntryText_ofList {row : List Char} (isRow : IsEntryRow row) :
    IsEntryText (String.ofList row) := by
  rw [IsEntryText, isTidy_iff, String.toList_ofList]
  exact ⟨⟨isRow.1, isRow.2.1⟩, isRow.2.2⟩

theorem isEntryText_ofList_append {row next : List Char} (isRow : IsEntryRow (row ++ next)) :
    IsEntryText (String.ofList row ++ String.ofList next) := by
  rw [← String.ofList_append]
  exact isEntryText_ofList isRow

theorem not_space_of_mem_repr {n : Nat} {c : Char} (isIn : c ∈ n.repr.toList) :
    c ≠ ' ' ∧ c ≠ '\n' := by
  rw [Nat.toList_repr] at isIn
  have isDigit : c.isDigit = true := Nat.isDigit_of_mem_toDigits (by decide) (by decide) isIn
  constructor <;> rintro rfl <;> exact absurd isDigit (by decide)

theorem isEntryText_repr (n : Nat) : IsEntryText n.repr := by
  refine ⟨⟨fun isIn => (not_space_of_mem_repr isIn).2 rfl, ?_⟩, fun isFirst => ?_⟩
  · refine List.Pairwise.isChain (List.pairwise_of_forall_mem_list fun c isIn d _ isSpace => ?_)
    exact absurd isSpace (not_space_of_mem_repr isIn).1
  · exact (not_space_of_mem_repr (List.mem_of_head? isFirst)).1 rfl

theorem getLast?_append_repr_ne (text : String) (n : Nat) :
    (text ++ n.repr).toList.getLast? ≠ some ' ' := by
  rw [String.toList_append, Nat.toList_repr,
    List.getLast?_append_of_ne_nil _ Nat.toDigits_ne_nil, ← Nat.toList_repr]
  exact fun isLast => (not_space_of_mem_repr (List.mem_of_getLast? isLast)).1 rfl

/-! ## Tidy messages -/

/-- The explanation of a fault is tidy, whatever the text that is refused. -/
theorem isEntryText_faultMessage (fault : JsonFault) (text : List Char) :
    IsEntryText (fault.message text) := by
  obtain ⟨line, column, worded⟩ : ∃ line column : Nat, fault.message text =
      fault.reason.message ++ " at line " ++ line.repr ++ " column " ++ column.repr :=
    ⟨_, _, rfl⟩
  have atLine : IsEntryText (fault.reason.message ++ " at line ") := by
    cases fault.reason <;> exact isEntryText_ofList_append (by decide +kernel)
  have atColumn : IsEntryText
      (fault.reason.message ++ " at line " ++ line.repr ++ " column ") := by
    have numbered := atLine.append (isEntryText_repr line) (by simp)
    refine ⟨numbered.1.append (by decide +kernel) (.inl (getLast?_append_repr_ne _ line)), ?_⟩
    rw [String.toList_append, List.head?_append_of_ne_nil _ (by simp)]
    exact numbered.2
  rw [worded]
  exact atColumn.append (isEntryText_repr column) (by simp)

theorem isEntryText_objectReason (text : String) : IsEntryText (Rule.objectReason text) := by
  unfold Rule.objectReason Json.readOrExplain
  cases Json.read text with
  | ok value => exact isEntryText_ofList (by decide +kernel)
  | error fault =>
      have lead : IsEntryText "invalid JSON: " := isEntryText_ofList (by decide +kernel)
      exact lead.append (isEntryText_faultMessage fault text.toList) (by simp)

theorem isEntryText_missing {field : String} (isField : IsEntryText field) :
    IsEntryText (Violation.missing field).message := by
  have lead : IsEntryText "Missing required configuration: " :=
    isEntryText_ofList (by decide +kernel)
  exact lead.append isField (by simp)

theorem isEntryText_invalid {field reason : String} (isField : IsEntryText field)
    (isReason : IsEntryText reason) : IsEntryText (Violation.invalid field reason).message := by
  have lead : IsEntryText "Invalid configuration value for " :=
    isEntryText_ofList (by decide +kernel)
  have colon : IsEntryText ": " := isEntryText_ofList (by decide +kernel)
  exact ((lead.append isField (by simp)).append colon (by simp)).append isReason (by simp)

theorem isEntryText_violation (configuration : Configuration) (rule : Rule) :
    IsEntryText (rule.violation configuration).message := by
  cases rule with
  | host => exact isEntryText_missing (isEntryText_ofList (by decide +kernel))
  | portsDiffer =>
      have lead : IsEntryText
          ("Port conflict: ports.command_port and ports.heartbeat_port both use port ") :=
        isEntryText_ofList (by decide +kernel)
      have worded : (Rule.violation configuration .portsDiffer).message =
          "Port conflict: " ++ "ports.command_port" ++ " and " ++ "ports.heartbeat_port" ++
            " both use port " ++ configuration.ports.commandPort.toNat.repr := rfl
      rw [worded]
      exact lead.append (isEntryText_repr _) (by simp)
  | taskParameters | userInfo =>
      exact isEntryText_invalid (isEntryText_ofList (by decide +kernel))
        (isEntryText_objectReason _)
  | _ =>
      exact isEntryText_invalid (isEntryText_ofList (by decide +kernel))
        (isEntryText_ofList (by decide +kernel))

/-! ## Reports -/

def lines (text : String) : List String :=
  (splitAtChar '\n' text.toList).map String.ofList

def entryMark : List Char :=
  [' ', ' ', '-', ' ']

def entry (violation : Violation) : String :=
  "  - " ++ violation.message

def heading : String :=
  "Configuration validation failed:"

theorem toList_entry (violation : Violation) :
    (entry violation).toList = entryMark ++ violation.message.toList :=
  String.toList_append

/-- A report is its heading and its entries, each on a line. -/
theorem toList_report (first : Violation) (rest : List Violation) :
    (report (first :: rest)).toList =
      ['\n'].intercalate
        (heading.toList :: (first :: rest).map fun violation => (entry violation).toList) := by
  have opening : "Configuration validation failed:\n".toList = heading.toList ++ ['\n'] := by
    decide +kernel
  have newline : "\n".toList = ['\n'] := by decide +kernel
  have entries :
      ("\n".intercalate ((first :: rest).map fun violation => "  - " ++ violation.message)).toList =
        ['\n'].intercalate ((first :: rest).map fun violation => (entry violation).toList) := by
    rw [String.toList_intercalate, newline, List.map_map]
    rfl
  rw [List.intercalate_cons_of_ne_nil (by simp), ← entries, ← opening]
  exact String.toList_append

theorem occurrences_eq_zero {text : String} (tidy : IsTidy text) :
    occurrences entryMark text.toList = 0 := by
  have spaced := tidy.singleSpaced
  generalize text.toList = chars at spaced
  induction chars with
  | nil => rfl
  | cons c rest ih =>
      have elsewhere : entryMark.isPrefixOf (c :: rest) = false := by
        cases rest with
        | nil => simp [entryMark, List.isPrefixOf]
        | cons next others =>
            have apart := (List.isChain_cons_cons.mp spaced).1
            by_cases isSpace : c = ' '
            · simp [entryMark, List.isPrefixOf, (apart isSpace).symm]
            · simp [entryMark, List.isPrefixOf, Ne.symm isSpace]
      rw [occurrences_cons, ih spaced.tail, elsewhere]
      rfl

/-- The mark of an entry occurs in it once, at its beginning. -/
theorem occurrences_entry {violation : Violation} (isText : IsEntryText violation.message) :
    occurrences entryMark (entry violation).toList = 1 := by
  have nowhere := occurrences_eq_zero isText.1
  have begins := isText.2
  rw [toList_entry]
  cases said : violation.message.toList with
  | nil => rfl
  | cons c rest =>
      rw [said] at nowhere begins
      have notSpace : ' ' ≠ c := fun same => begins (by rw [same]; rfl)
      rw [occurrences_cons] at nowhere
      simp [entryMark, occurrences_cons, List.isPrefixOf, notSpace] at nowhere ⊢
      exact nowhere

theorem newline_notMem_entry {violation : Violation} (isText : IsEntryText violation.message) :
    '\n' ∉ (entry violation).toList := by
  rw [toList_entry, List.mem_append]
  rintro (isIn | isIn)
  · exact absurd isIn (by decide)
  · exact isText.1.oneLine isIn

section Reports

variable {first : Violation} {rest : List Violation}

/-- The lines of a report are its heading and its entries. -/
theorem lines_report
    (areTexts : ∀ violation ∈ first :: rest, IsEntryText violation.message) :
    lines (report (first :: rest)) = heading :: (first :: rest).map entry := by
  have whole : ∀ piece ∈ heading.toList ::
      (first :: rest).map fun violation => (entry violation).toList, '\n' ∉ piece := by
    intro piece isIn
    obtain rfl | isIn := List.mem_cons.mp isIn
    · decide +kernel
    · obtain ⟨violation, isFound, rfl⟩ := List.mem_map.mp isIn
      exact newline_notMem_entry (areTexts violation isFound)
  rw [lines, toList_report, splitAtChar_joined whole (List.cons_ne_nil _ _)]
  simp [Function.comp_def]

theorem occurrences_report
    (areTexts : ∀ violation ∈ first :: rest, IsEntryText violation.message) :
    occurrences entryMark (report (first :: rest)).toList = (first :: rest).length := by
  have once : ∀ piece ∈ (first :: rest).map fun violation => (entry violation).toList,
      occurrences entryMark piece = 1 := by
    intro piece isIn
    obtain ⟨violation, isFound, rfl⟩ := List.mem_map.mp isIn
    exact occurrences_entry (areTexts violation isFound)
  have none : occurrences entryMark heading.toList = 0 := by decide +kernel
  rw [toList_report, occurrences_joined (by decide) (by decide) once, none, List.length_map,
    Nat.zero_add]

end Reports

/-! ## Validation -/

/--
A configuration is accepted exactly if it meets the rules.  Otherwise the
message has, below its heading, one entry for each violated rule in the order
of the rules and nothing else.
-/
theorem violated_rules_are_reported (configuration : Configuration) :
    (configuration.validate = .ok () ↔ configuration.MeetsRules) ∧
      (∀ rule, rule ∈ configuration.violatedRules ↔ rule.IsViolated configuration) ∧
      configuration.violatedRules.Sublist Rule.inOrder ∧ configuration.violatedRules.Nodup ∧
      (¬ configuration.MeetsRules → ∃ message,
        configuration.validate = .error (.invalid message) ∧
          lines message = heading :: configuration.violatedRules.map (fun rule =>
            entry (rule.violation configuration)) ∧
          occurrences entryMark message.toList = configuration.violatedRules.length) := by
  refine ⟨validate_eq_ok_iff configuration, fun rule => mem_violatedRules, List.filter_sublist,
    violatedRules_nodup configuration, fun violates => ?_⟩
  have areTexts : ∀ violation ∈ configuration.violations, IsEntryText violation.message := by
    intro violation isFound
    rw [violations_eq] at isFound
    obtain ⟨rule, -, rfl⟩ := List.mem_map.mp isFound
    exact isEntryText_violation configuration rule
  have same := violations_eq configuration
  cases found : configuration.violations with
  | nil => exact absurd ((violations_eq_nil_iff configuration).mp found) violates
  | cons first rest =>
      rw [found] at areTexts same
      refine ⟨report (first :: rest), by rw [validate, found], ?_, ?_⟩
      · rw [lines_report areTexts, same, List.map_map]
        rfl
      · rw [occurrences_report areTexts, same, List.length_map]

/-- Two ports of zero, a task that is no object and a user that cannot be read. -/
def unfit : Configuration where
  controller := { host := " \t" }
  ports := { commandPort := 0, heartbeatPort := 0 }
  discovery := { maxAttempts := 0 }
  sockets := { highWaterMark := -1 }
  timeouts := { pollIntervalMillis := 0 }
  session := { taskParameters := "[]", userInfo := "\x7b\n-" }

/-- All rules but one can be violated at once. -/
theorem violated_rules_are_reported_of_unfit :
    ¬ unfit.MeetsRules ∧ ∃ message, unfit.validate = .error (.invalid message) ∧
      lines message =
        ["Configuration validation failed:",
          "  - Missing required configuration: controller.host",
          "  - Invalid configuration value for ports.command_port: port 0 cannot be connected to",
          "  - Invalid configuration value for ports.heartbeat_port: port 0 cannot be connected to",
          "  - Invalid configuration value for discovery.max_attempts: must be at least 1",
          "  - Invalid configuration value for sockets.high_water_mark: must be positive",
          "  - Invalid configuration value for timeouts.poll_interval_ms: must be positive",
          "  - Invalid configuration value for session.task_parameters: must be a JSON object",
          "  - Invalid configuration value for session.user_info: invalid JSON: " ++
            "key must be a string at line 2 column 1"] ∧
      occurrences entryMark message.toList = 8 := by
  have violates : ¬ unfit.MeetsRules := fun meets => meets.commandPort rfl
  obtain ⟨message, refused, said, counted⟩ :=
    (violated_rules_are_reported unfit).2.2.2.2 violates
  have broken : unfit.violatedRules =
      [.host, .commandPort, .heartbeatPort, .maxAttempts, .highWaterMark, .pollInterval,
        .taskParameters, .userInfo] := by
    decide +kernel
  refine ⟨violates, message, refused, ?_, ?_⟩
  · rw [said, broken]
    decide +kernel
  · rw [counted, broken]
    rfl

end Configuration

end TaskLink
