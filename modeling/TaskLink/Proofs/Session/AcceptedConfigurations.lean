import TaskLink.Proofs.Configuration.Rules
import TaskLink.Session.TaskSession

/-!
# Valid configurations are accepted

Four sets of rules are checked on the way from a configuration to a session:
those of the configuration, of its conversion, of the session options and of
the clients' settings.  What meets the first meets all the others, and the
conversion asks for nothing but the two objects.
-/

namespace TaskLink

open TaskLink.Configuration (HoldsObject MeetsRules readOrExplain_cases isObject_iff objectRule
  objectRule_eq_nil_iff validate_eq_ok_iff)

/-! ## Conversion -/

namespace SessionOptions

/-- The object that a text holds is read; any other text is refused. -/
theorem readObject_cases (field text : String) :
    (∃ members, Json.read? text = some (.object members) ∧
        readObject field text = .ok (.object members)) ∨
      ¬HoldsObject text ∧ ∃ detail, readObject field text = .error (.invalidArguments detail) := by
  unfold readObject HoldsObject
  obtain ⟨value, explained, isRead⟩ | ⟨explanation, explained, isRead⟩ := readOrExplain_cases text
  · rw [explained, isRead]
    cases value with
    | object members => exact Or.inl ⟨members, rfl, rfl⟩
    | _ => exact Or.inr ⟨by simp, _, rfl⟩
  · rw [explained, isRead]
    exact Or.inr ⟨by simp, _, rfl⟩

def described (configuration : Configuration) (taskParameters userInfo : Json) :
    SessionOptions where
  host := configuration.controller.host
  commandPort := configuration.ports.commandPort
  heartbeatPort := configuration.ports.heartbeatPort
  sceneKey := configuration.session.sceneKey
  slaveRequestId := configuration.session.slaveRequestId
  taskType := configuration.session.taskType
  taskParameters := taskParameters
  userInfo := userInfo
  commandTimeout := configuration.timeouts.commandTimeout
  reinitializeTimeout := configuration.timeouts.reinitializeTimeout
  pollInterval := configuration.timeouts.pollInterval
  discovery := discoveryOf configuration.discovery
  socketOptions := socketOptionsOf configuration.sockets

/-- The conversion takes both objects over, or one of them is missing. -/
theorem ofConfiguration_cases (configuration : Configuration) :
    (∃ parameters user,
        Json.read? configuration.session.taskParameters = some (.object parameters) ∧
        Json.read? configuration.session.userInfo = some (.object user) ∧
        ofConfiguration configuration =
          .ok (described configuration (.object parameters) (.object user))) ∨
      (¬HoldsObject configuration.session.taskParameters ∨
          ¬HoldsObject configuration.session.userInfo) ∧
        ∃ error, ofConfiguration configuration = .error error := by
  unfold ofConfiguration
  obtain ⟨parameters, isRead, same⟩ | ⟨lacking, detail, same⟩ :=
    readObject_cases "task_parameters" configuration.session.taskParameters
  · obtain ⟨user, isReadToo, sameToo⟩ | ⟨lacking, detail, sameToo⟩ :=
      readObject_cases "user_info" configuration.session.userInfo
    · refine Or.inl ⟨parameters, user, isRead, isReadToo, ?_⟩
      dsimp only
      rw [same, sameToo]
      rfl
    · refine Or.inr ⟨Or.inr lacking, .invalidArguments detail, ?_⟩
      dsimp only
      rw [same, sameToo]
      rfl
  · refine Or.inr ⟨Or.inl lacking, .invalidArguments detail, ?_⟩
    dsimp only
    rw [same]
    rfl

/-! ## Session options -/

variable {configuration : Configuration}

theorem host_ne_empty (meets : configuration.MeetsRules) : configuration.controller.host ≠ "" := by
  intro empty
  have blank := meets.host
  rw [empty] at blank
  cases blank

/-- Options of a valid configuration give no cause for complaint. -/
theorem validate_described (meets : configuration.MeetsRules)
    (parameters user : List (String × Json)) :
    (described configuration (.object parameters) (.object user)).validate = .ok () := by
  have noComplaints :
      (described configuration (.object parameters) (.object user)).complaints = [] := by
    simp [complaints, complaint, described, host_ne_empty meets, meets.commandPort,
      meets.heartbeatPort, meets.portsDiffer, JsonTree.isObject]
  rw [validate, noComplaints]

end SessionOptions

/-! ## Clients -/

theorem Endpoint.validate_eq_ok {endpoint : Endpoint} (named : allBlank endpoint.host = false)
    (port : endpoint.port ≠ 0) : endpoint.validate = .ok () := by
  simp [Endpoint.validate, named, port]

theorem SocketOptions.validate_eq_ok {options : SocketOptions}
    (deep : 0 < options.highWaterMark) : options.validate = .ok () := by
  have notShallow : ¬options.highWaterMark ≤ 0 := Int32.not_le.mpr deep
  simp [SocketOptions.validate, notShallow]

theorem ClientSettings.validate_eq_ok {settings : ClientSettings}
    (endpoint : settings.endpoint.validate = .ok ()) (options : settings.options.validate = .ok ())
    (interval : settings.pollInterval.isZero = false) (size : settings.maxMessageSize ≠ 0) :
    settings.validate = .ok () := by
  simp [ClientSettings.validate, endpoint, options, interval, size, bind, Except.bind, pure,
    Except.pure]

theorem Duration.isZero_ofMillis {millis : UInt64} (positive : millis ≠ 0) :
    (Duration.ofMillis millis.toNat).isZero = false := by
  have notZero : millis.toNat ≠ 0 := fun zero => positive (UInt64.toNat_inj.mp zero)
  have some : 0 < millis.toNat * nanosPerMilli :=
    Nat.mul_pos (Nat.pos_of_ne_zero notZero) (by decide)
  have room : 0 < UInt64.size * nanosPerSec - 1 := by decide
  rw [isZero, ofMillis, nanos_ofNanos, beq_eq_false_iff_ne]
  exact Nat.ne_of_gt (Nat.lt_min.mpr ⟨some, room⟩)

/-- A client for settings that are in order is created with them. -/
theorem Requester.exists_create {σ : Type} {settings : ClientSettings}
    (valid : settings.validate = .ok ()) (shared : Option ContextId)
    (preempt : Option (Preempt σ)) :
    ∃ client, Requester.create settings shared preempt = .ok client ∧
      client.settings = settings ∧ client.lifecycle.endpoint = settings.endpoint := by
  rw [Requester.create, valid]
  exact ⟨_, rfl, rfl, rfl⟩

/-- A subscriber for settings that are in order is created for their endpoint. -/
theorem Subscriber.exists_create {settings : ClientSettings} (valid : settings.validate = .ok ())
    (shared : Option ContextId) :
    ∃ subscriber, Subscriber.create settings shared = .ok subscriber ∧
      subscriber.lifecycle.endpoint = settings.endpoint ∧
      subscriber.lifecycle.options = settings.options := by
  rw [Subscriber.create, valid]
  exact ⟨_, rfl, rfl, rfl⟩

namespace SessionOptions

variable {configuration : Configuration} {parameters user : Json}

theorem validate_clientSettings (meets : configuration.MeetsRules) :
    (described configuration parameters user).clientSettings.validate = .ok () := by
  apply ClientSettings.validate_eq_ok
  · exact Endpoint.validate_eq_ok meets.host meets.commandPort
  · exact SocketOptions.validate_eq_ok meets.highWaterMark
  · exact Duration.isZero_ofMillis meets.pollInterval
  · exact (by decide : defaultMaxMessageSize ≠ 0)

theorem validate_heartbeatSettings (meets : configuration.MeetsRules) :
    (described configuration parameters user).heartbeatSettings.validate = .ok () := by
  apply ClientSettings.validate_eq_ok
  · exact Endpoint.validate_eq_ok meets.host meets.heartbeatPort
  · exact SocketOptions.validate_eq_ok meets.highWaterMark
  · exact (by decide : (Duration.ofMillis 100).isZero = false)
  · exact (by decide : defaultMaxMessageSize ≠ 0)

/-! ## Main statement -/

def HasCommandClient (options : SessionOptions) : Prop :=
  ∀ (σ : Type) (shared : Option ContextId) (preempt : Option (Preempt σ)),
    ∃ client, Requester.create options.clientSettings shared preempt = .ok client ∧
      client.lifecycle.endpoint = options.commandEndpoint ∧
      client.settings.options = options.socketOptions ∧
      client.settings.defaultTimeout = options.commandTimeout ∧
      client.settings.pollInterval = options.pollInterval

def HasHeartbeatSubscriber (options : SessionOptions) : Prop :=
  ∀ shared : Option ContextId,
    ∃ subscriber, Subscriber.create options.heartbeatSettings shared = .ok subscriber ∧
      subscriber.lifecycle.endpoint = options.heartbeatEndpoint ∧
      subscriber.lifecycle.options = options.socketOptions

/--
A valid configuration describes session options that are valid too, and for
which both clients are created.  Valid or not, a configuration describes no
options exactly if a rule about its two objects is violated.
-/
theorem valid_configurations_are_accepted (configuration : Configuration) :
    (configuration.validate = .ok () →
        ∃ options, ofConfiguration configuration = .ok options ∧ options.validate = .ok () ∧
          options.HasCommandClient ∧ options.HasHeartbeatSubscriber) ∧
      ((∃ error, ofConfiguration configuration = .error error) ↔
        objectRule "session.task_parameters" configuration.session.taskParameters ≠ [] ∨
          objectRule "session.user_info" configuration.session.userInfo ≠ []) := by
  constructor
  · intro valid
    have meets := (validate_eq_ok_iff configuration).mp valid
    obtain ⟨parameters, user, -, -, converted⟩ | ⟨lacking, -⟩ := ofConfiguration_cases configuration
    · refine ⟨_, converted, validate_described meets parameters user, ?_, ?_⟩
      · intro σ shared preempt
        obtain ⟨client, created, same, endpoint⟩ :=
          Requester.exists_create (validate_clientSettings meets) shared preempt
        refine ⟨client, created, endpoint, ?_⟩
        rw [same]
        exact ⟨rfl, rfl, rfl⟩
      · intro shared
        exact Subscriber.exists_create (validate_heartbeatSettings meets) shared
    · rcases lacking with lacking | lacking
      · exact absurd meets.taskParameters lacking
      · exact absurd meets.userInfo lacking
  · rw [Ne, Ne, objectRule_eq_nil_iff, objectRule_eq_nil_iff]
    obtain ⟨parameters, user, isRead, isReadToo, converted⟩ | ⟨lacking, failed⟩ :=
      ofConfiguration_cases configuration
    · constructor
      · rintro ⟨error, failed⟩
        rw [converted] at failed
        cases failed
      · rintro (lacking | lacking)
        · exact absurd ⟨parameters, isRead⟩ lacking
        · exact absurd ⟨user, isReadToo⟩ lacking
    · exact ⟨fun _ => lacking, fun _ => failed⟩

/-- A configuration whose values are as extreme as its rules allow. -/
def barelyValid : Configuration where
  controller := { host := " a\t" }
  ports := { commandPort := 1, heartbeatPort := 65535 }
  timeouts := { commandTimeoutSecs := Double.zero true, pollIntervalMillis := 18446744073709551615 }
  discovery := { maxAttempts := 1 }
  sockets := { highWaterMark := 1, lingerMillis := -5 }
  session := { taskParameters := " \x7b\"a\":1,\"a\":[]\x7d", userInfo := "\x7b\"\":null\x7d\n" }

theorem valid_configurations_are_accepted_at_their_limits :
    barelyValid.validate = .ok () ∧
      ∃ options, ofConfiguration barelyValid = .ok options ∧ options.validate = .ok () ∧
        options.HasCommandClient ∧ options.HasHeartbeatSubscriber := by
  have none : barelyValid.violations = [] := by decide +kernel
  have valid : barelyValid.validate = .ok () :=
    (validate_eq_ok_iff _).mpr ((Configuration.violations_eq_nil_iff _).mp none)
  exact ⟨valid, (valid_configurations_are_accepted barelyValid).1 valid⟩

end SessionOptions

end TaskLink
