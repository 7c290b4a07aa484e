import TaskLink.Text.Utf8

/-!
# Process environment

Variables by name.  A value that is not text counts as unset.
-/

namespace TaskLink

structure Environment where
  entries : List (String × ByteArray) := []

namespace Environment

def bytes? (environment : Environment) (name : String) : Option ByteArray :=
  (environment.entries.find? fun entry => entry.1 == name).map (·.2)

def get? (environment : Environment) (name : String) : Option String :=
  (environment.bytes? name).bind String.fromUTF8?

def has (environment : Environment) (name : String) : Bool :=
  (environment.get? name).isSome

/-- A variable is set, but not to a text. -/
def IsGarbled (environment : Environment) (name : String) : Prop :=
  ∃ bytes, environment.bytes? name = some bytes ∧ String.fromUTF8? bytes = none

/-- A variable has no text if it is not set, and also if it is set to something else. -/
theorem get?_eq_none_iff {environment : Environment} {name : String} :
    environment.get? name = none ↔
      environment.bytes? name = none ∨ environment.IsGarbled name := by
  unfold get? IsGarbled
  cases environment.bytes? name <;> simp

/-- A variable that is set to a text has that text. -/
theorem get?_eq_some_iff {environment : Environment} {name text : String} :
    environment.get? name = some text ↔ environment.bytes? name = some text.toUTF8 := by
  simp only [get?, Option.bind_eq_some_iff, fromUTF8?_eq_some_iff, exists_eq_right]

end Environment

end TaskLink
