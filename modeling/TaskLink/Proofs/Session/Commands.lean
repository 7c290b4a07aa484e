import TaskLink.Session.TaskSession

/-!
# Commands of a session

The ways to send a command are told as one, so that what a session does can be
told for any row of commands.
-/

namespace TaskLink

inductive SessionCommand where
  | raw (polls : Nat) (command : String) (timeout : Option Duration) (bits : UInt32)
  | enveloped (polls : Nat) (parameters : Json) (timeout : Option Duration)

namespace SessionCommand

variable {σ : Type}

def text (session : TaskSession σ) : SessionCommand → String
  | .raw _ command _ _ => command
  | .enveloped _ parameters _ => (session.commandEnvelope parameters).compact

def message (session : TaskSession σ) (command : SessionCommand) : ByteArray :=
  (command.text session).toUTF8

variable (fabric : Fabric σ) (watchers : Watchers σ)

/-- Carry out a command; raw commands return text, and the others JSON. -/
def perform (session : TaskSession σ) (s : σ) :
    SessionCommand → Option (Except SessionError (String ⊕ Json) × TaskSession σ × σ)
  | .raw polls command timeout bits =>
      (session.executeRaw fabric watchers polls command timeout bits s).map
        fun (result, after) => (result.map .inl, after)
  | .enveloped polls parameters timeout =>
      (session.execute fabric watchers polls parameters timeout s).map
        fun (result, after) => (result.map .inr, after)

def run (session : TaskSession σ) (s : σ) : List SessionCommand → Option (TaskSession σ × σ)
  | [] => some (session, s)
  | command :: later =>
      (command.perform fabric watchers session s).bind fun (_, session, s) =>
        run session s later

variable {fabric} {watchers} {session after : TaskSession σ} {s last : σ}

/-- Whatever a command comes to, its text was carried out raw, and errors were passed on. -/
theorem perform_cases {command : SessionCommand}
    {outcome : Except SessionError (String ⊕ Json)}
    (performed : command.perform fabric watchers session s = some (outcome, after, last)) :
    ∃ polls timeout bits result,
      session.executeRaw fabric watchers polls (command.text session) timeout bits s =
        some (result, after, last) ∧
      ∀ error, result = .error error → outcome = .error error := by
  cases command with
  | raw polls command timeout bits =>
      obtain ⟨⟨result, rest⟩, returned, same⟩ := Option.map_eq_some_iff.mp performed
      cases same
      refine ⟨polls, timeout, bits, result, returned, ?_⟩
      rintro error rfl
      rfl
  | enveloped polls parameters timeout =>
      obtain ⟨⟨read, rest⟩, executed, same⟩ := Option.map_eq_some_iff.mp performed
      cases same
      obtain ⟨⟨result, session', s'⟩, returned, same⟩ := Option.map_eq_some_iff.mp executed
      cases same
      refine ⟨polls, timeout, 0, result, returned, ?_⟩
      rintro error rfl
      rfl

/-- What every command keeps is kept by a row of commands. -/
theorem run_keeps (property : TaskSession σ → σ → Prop)
    (keeps : ∀ polls command timeout bits session s result after last, property session s →
      session.executeRaw fabric watchers polls command timeout bits s =
        some (result, after, last) → property after last)
    (holds : property session s) {commands : List SessionCommand}
    (ran : run fabric watchers session s commands = some (after, last)) :
    property after last := by
  induction commands generalizing session s with
  | nil =>
      cases ran
      exact holds
  | cons command later ih =>
      obtain ⟨⟨outcome, session', s'⟩, performed, ran⟩ := Option.bind_eq_some_iff.mp ran
      obtain ⟨polls, timeout, bits, result, returned, -⟩ := perform_cases performed
      exact ih (keeps _ _ _ _ _ _ _ _ _ holds returned) ran

end SessionCommand

/-! ## Missing replies -/

theorem LinkError.code_ne_noResponse (error : LinkError) : error.code ≠ .noResponse := by
  cases error <;> nofun

end TaskLink
