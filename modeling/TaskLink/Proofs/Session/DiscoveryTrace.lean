import TaskLink.Session.Discovery

/-!
# What discovery asks of a source

A source is watched through a record of what it did: whether it was opened,
what it answered, and that it was closed.  The record changes nothing else.
Discovery fetches until an answer decides it, and what it comes to is told by
the answers alone.
-/

namespace TaskLink

/-! ## The record -/

inductive SourceEvent where
  | opened
  | refused (error : SessionError)
  | answered (wait : Duration) (answer : Except SessionError (Option String))
  | closed

namespace SourceEvent

def isOpening : SourceEvent → Bool
  | .opened | .refused _ => true
  | _ => false

theorem countP_isOpening_answered (wait : Duration)
    (answers : List (Except SessionError (Option String))) :
    (answers.map (answered wait)).countP isOpening = 0 := by
  rw [List.countP_eq_zero]
  intro event isAnswer
  obtain ⟨answer, -, rfl⟩ := List.mem_map.mp isAnswer
  exact Bool.false_ne_true

end SourceEvent

structure Noted (α : Type) where
  around : α
  events : List SourceEvent := []

namespace HeartbeatSource

variable {σ τ : Type}

def noting (source : HeartbeatSource σ τ) : HeartbeatSource (Noted σ) (Noted τ) where
  endpoint := source.endpoint
  openSource s :=
    match source.openSource s.around with
    | .error (error, around) => .error (error, ⟨around, s.events ++ [.refused error]⟩)
    | .ok opened => .ok ⟨opened, s.events ++ [.opened]⟩
  fetch wait s :=
    match source.fetch wait s.around with
    | (answer, around) => (answer, ⟨around, s.events ++ [.answered wait answer]⟩)
  closeSource s := ⟨source.closeSource s.around, s.events ++ [.closed]⟩
  clock s := source.clock s.around
  sleep span s := ⟨source.sleep span s.around, s.events⟩

theorem noting_openSource_of_error {source : HeartbeatSource σ τ} {s : Noted σ}
    {error : SessionError} {around : σ}
    (refused : source.openSource s.around = .error (error, around)) :
    source.noting.openSource s = .error (error, ⟨around, s.events ++ [.refused error]⟩) := by
  simp only [noting, refused]

theorem noting_openSource_of_ok {source : HeartbeatSource σ τ} {s : Noted σ} {opened : τ}
    (isOpened : source.openSource s.around = .ok opened) :
    source.noting.openSource s = .ok ⟨opened, s.events ++ [.opened]⟩ := by
  simp only [noting, isOpened]

theorem noting_fetch {source : HeartbeatSource σ τ} {wait : Duration} {opened : Noted τ}
    {answer : Except SessionError (Option String)} {next : τ}
    (fetched : source.fetch wait opened.around = (answer, next)) :
    source.noting.fetch wait opened = (answer, ⟨next, opened.events ++ [.answered wait answer]⟩) := by
  simp only [noting, fetched]

theorem noting_pace (source : HeartbeatSource σ τ) (wait : Duration) (started : Nat)
    (opened : Noted τ) :
    source.noting.pace wait started opened =
      ⟨source.pace wait started opened.around, opened.events⟩ := by
  unfold pace
  dsimp only [noting]
  split <;> rfl

/-! ## Discovery -/

/-- An answer that decides nothing: no heartbeat, or an empty one. -/
def IsIdle (answer : Except SessionError (Option String)) : Prop :=
  answer = .ok none ∨ answer = .ok (some "")

/--
What discovery comes to within some attempts, by what was answered: the first
answer that is not idle decides, and nothing is asked for after it.
-/
inductive Discovers (endpoint : String) (attempts : Nat) :
    List (Except SessionError (Option String)) → Except SessionError String → Prop where
  /-- A heartbeat arrived. -/
  | found {idle : List (Except SessionError (Option String))} {heartbeat : String}
      (areIdle : ∀ answer ∈ idle, IsIdle answer) (early : idle.length < attempts)
      (notEmpty : heartbeat ≠ "") :
      Discovers endpoint attempts (idle ++ [.ok (some heartbeat)]) (.ok heartbeat)
  /-- A fetch failed. -/
  | failed {idle : List (Except SessionError (Option String))} {error : SessionError}
      (areIdle : ∀ answer ∈ idle, IsIdle answer) (early : idle.length < attempts) :
      Discovers endpoint attempts (idle ++ [.error error]) (.error error)
  /-- Every attempt was idle. -/
  | silent {idle : List (Except SessionError (Option String))}
      (areIdle : ∀ answer ∈ idle, IsIdle answer) (spent : idle.length = attempts) :
      Discovers endpoint attempts idle (.error (.noHeartbeat endpoint))

/-- An idle answer costs an attempt and decides nothing. -/
theorem Discovers.idle {endpoint : String} {attempts : Nat}
    {answer : Except SessionError (Option String)}
    {answers : List (Except SessionError (Option String))} {result : Except SessionError String}
    (discovers : Discovers endpoint attempts answers result) (isIdle : IsIdle answer) :
    Discovers endpoint (attempts + 1) (answer :: answers) result := by
  cases discovers with
  | found areIdle early notEmpty =>
      exact .found (List.forall_mem_cons.mpr ⟨isIdle, areIdle⟩) (Nat.succ_lt_succ early) notEmpty
  | failed areIdle early =>
      exact .failed (List.forall_mem_cons.mpr ⟨isIdle, areIdle⟩) (Nat.succ_lt_succ early)
  | silent areIdle spent =>
      exact .silent (List.forall_mem_cons.mpr ⟨isIdle, areIdle⟩) (congrArg Nat.succ spent)

/-- After an idle answer discovery goes on with one attempt less once the wait is over. -/
theorem discoverWithin_of_idle {source : HeartbeatSource σ τ} {wait : Duration} {opened next : τ}
    {answer : Except SessionError (Option String)}
    (fetched : source.fetch wait opened = (answer, next)) (isIdle : IsIdle answer)
    (attempts : Nat) :
    source.discoverWithin wait (attempts + 1) opened =
      source.discoverWithin wait attempts (source.pace wait (source.clock opened) next) := by
  rw [discoverWithin, fetched]
  obtain rfl | rfl := isIdle <;> rfl

theorem discoverWithin_of_heartbeat {source : HeartbeatSource σ τ} {wait : Duration}
    {opened next : τ} {heartbeat : String}
    (fetched : source.fetch wait opened = (.ok (some heartbeat), next))
    (notEmpty : heartbeat ≠ "") (attempts : Nat) :
    source.discoverWithin wait (attempts + 1) opened = (.ok heartbeat, next) := by
  rw [discoverWithin, fetched]
  dsimp only
  rw [if_neg (by simpa using notEmpty)]

theorem discoverWithin_of_error {source : HeartbeatSource σ τ} {wait : Duration}
    {opened next : τ} {error : SessionError}
    (fetched : source.fetch wait opened = (.error error, next)) (attempts : Nat) :
    source.discoverWithin wait (attempts + 1) opened = (.error error, next) := by
  rw [discoverWithin, fetched]

/-- Discovery with a record is discovery, and the record tells what it comes to. -/
theorem discoverWithin_noting (source : HeartbeatSource σ τ) (wait : Duration) (attempts : Nat)
    (opened : Noted τ) :
    ∃ answers,
      source.noting.discoverWithin wait attempts opened =
          ((source.discoverWithin wait attempts opened.around).1,
            ⟨(source.discoverWithin wait attempts opened.around).2,
              opened.events ++ answers.map (.answered wait)⟩) ∧
        Discovers source.endpoint attempts answers
          (source.discoverWithin wait attempts opened.around).1 := by
  induction attempts generalizing opened with
  | zero =>
      refine ⟨[], ?_, .silent (fun _ impossible => absurd impossible List.not_mem_nil) rfl⟩
      rw [List.map_nil, List.append_nil]
      rfl
  | succ attempts ih =>
      cases fetched : source.fetch wait opened.around with
      | mk answer next =>
          have noted := noting_fetch fetched
          by_cases isIdle : IsIdle answer
          · obtain ⟨answers, same, discovers⟩ :=
              ih ⟨source.pace wait (source.clock opened.around) next,
                opened.events ++ [.answered wait answer]⟩
            rw [discoverWithin_of_idle noted isIdle, discoverWithin_of_idle fetched isIdle,
              noting_pace]
            refine ⟨answer :: answers, ?_, discovers.idle isIdle⟩
            refine same.trans ?_
            rw [List.map_cons, List.append_assoc, List.singleton_append]
          · have early : ([] : List (Except SessionError (Option String))).length < attempts + 1 :=
              Nat.zero_lt_succ attempts
            have noneIdle (answer : Except SessionError (Option String)) (impossible : answer ∈ []) :
                IsIdle answer :=
              absurd impossible List.not_mem_nil
            refine ⟨[answer], ?_⟩
            cases answer with
            | error error =>
                rw [discoverWithin_of_error noted, discoverWithin_of_error fetched]
                exact ⟨rfl, .failed noneIdle early⟩
            | ok answer =>
                cases answer with
                | none => exact absurd (Or.inl rfl) isIdle
                | some heartbeat =>
                    have notEmpty : heartbeat ≠ "" := fun empty =>
                      isIdle (Or.inr (by rw [empty]))
                    rw [discoverWithin_of_heartbeat noted notEmpty,
                      discoverWithin_of_heartbeat fetched notEmpty]
                    exact ⟨rfl, .found noneIdle early notEmpty⟩

end HeartbeatSource

end TaskLink
