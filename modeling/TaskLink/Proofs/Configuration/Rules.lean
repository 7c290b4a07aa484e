import TaskLink.Configuration.Rules

/-!
# What a valid configuration is

A configuration is valid exactly if it meets a handful of rules, which are
stated here without the order in which they are checked and without the words
for what violates them.
-/

namespace TaskLink

namespace Configuration

/-! ## Single rules -/

def HoldsObject (text : String) : Prop :=
  ∃ members, Json.read? text = some (.object members)

@[simp]
theorem when_eq_nil_iff (condition : Bool) (violation : Violation) :
    when condition violation = [] ↔ condition = false := by
  cases condition <;> simp [when]

theorem portRule_eq_nil_iff (field : String) (port : UInt16) :
    portRule field port = [] ↔ port ≠ 0 := by
  simp [portRule]

theorem isObject_iff {ν τ : Type} (tree : JsonTree ν τ) :
    tree.isObject = true ↔ ∃ members, tree = .object members := by
  cases tree <;> simp [JsonTree.isObject]

/-- A text is read with an explanation as it is read without one. -/
theorem readOrExplain_cases (text : String) :
    (∃ value, Json.readOrExplain text = .ok value ∧ Json.read? text = some value) ∨
      ∃ explanation, Json.readOrExplain text = .error explanation ∧ Json.read? text = none := by
  unfold Json.readOrExplain Json.read?
  cases Json.read text with
  | ok value => exact Or.inl ⟨value, rfl, rfl⟩
  | error fault => exact Or.inr ⟨_, rfl, rfl⟩

/-- The object rule is kept by the texts that hold an object. -/
theorem objectRule_eq_nil_iff (field text : String) :
    objectRule field text = [] ↔ HoldsObject text := by
  unfold objectRule HoldsObject
  obtain ⟨value, explained, isRead⟩ | ⟨explanation, explained, isRead⟩ := readOrExplain_cases text
  · rw [explained, isRead]
    simp [isObject_iff]
  · rw [explained, isRead]
    simp

/-! ## All rules -/

structure MeetsRules (configuration : Configuration) : Prop where
  host : allBlank configuration.controller.host = false
  commandPort : configuration.ports.commandPort ≠ 0
  heartbeatPort : configuration.ports.heartbeatPort ≠ 0
  portsDiffer : configuration.ports.commandPort ≠ configuration.ports.heartbeatPort
  maxAttempts : configuration.discovery.maxAttempts ≠ 0
  highWaterMark : 0 < configuration.sockets.highWaterMark
  pollInterval : configuration.timeouts.pollIntervalMillis ≠ 0
  taskParameters : HoldsObject configuration.session.taskParameters
  userInfo : HoldsObject configuration.session.userInfo

theorem violations_eq_nil_iff (configuration : Configuration) :
    configuration.violations = [] ↔ configuration.MeetsRules := by
  constructor
  · intro none
    simp only [violations, List.append_eq_nil_iff, when_eq_nil_iff, portRule_eq_nil_iff,
      objectRule_eq_nil_iff] at none
    obtain ⟨⟨⟨⟨⟨⟨⟨⟨host, command⟩, heartbeat⟩, differ⟩, attempts⟩, depth⟩, poll⟩, parameters⟩,
      user⟩ := none
    refine ⟨host, command, heartbeat, ?_, by simpa using attempts, ?_, by simpa using poll,
      parameters, user⟩
    · simpa [command] using differ
    · simpa using depth
  · intro meets
    simp only [violations, List.append_eq_nil_iff, when_eq_nil_iff, portRule_eq_nil_iff,
      objectRule_eq_nil_iff]
    refine ⟨⟨⟨⟨⟨⟨⟨⟨meets.host, meets.commandPort⟩, meets.heartbeatPort⟩, ?_⟩, ?_⟩, ?_⟩, ?_⟩,
      meets.taskParameters⟩, meets.userInfo⟩
    · simp [meets.portsDiffer]
    · simp [meets.maxAttempts]
    · simpa using meets.highWaterMark
    · simp [meets.pollInterval]

theorem validate_eq_ok_iff (configuration : Configuration) :
    configuration.validate = .ok () ↔ configuration.MeetsRules := by
  rw [← violations_eq_nil_iff]
  unfold validate
  cases configuration.violations <;> simp

end Configuration

end TaskLink
