import TaskLink.Proofs.Session.BackoffWaits

/-!
# How often an operation is retried

Retrying calls an operation until a result is final or the waits of the
strategy are used up.  The results are those that the operation gives call by
call if it is never given up; which of them is returned, after how many calls,
and what is left of the strategy, is told by the first final one and the limit.
-/

namespace TaskLink

/-! ## One call -/

section Call

variable {σ α : Type} {operation : σ → Except SessionError α × σ} {pause : Duration → σ → σ}
  {state next : σ} {error : SessionError}

theorem retryWithin_of_ok {value : α} (called : operation state = (.ok value, next))
    (fuel : Nat) (strategy : Backoff) :
    retryWithin operation pause (fuel + 1) strategy state =
      some (.ok value, strategy.reset, next) := by
  rw [retryWithin, called]

theorem retryWithin_of_final (called : operation state = (.error error, next))
    (final : error.isRetryable = false) (fuel : Nat) (strategy : Backoff) :
    retryWithin operation pause (fuel + 1) strategy state = some (.error error, strategy, next) := by
  rw [retryWithin, called]
  simp [final]

theorem retryWithin_of_spent (called : operation state = (.error error, next))
    (retryable : error.isRetryable = true) {strategy after : Backoff}
    (spent : strategy.next = (none, after)) (fuel : Nat) :
    retryWithin operation pause (fuel + 1) strategy state = some (.error error, after, next) := by
  rw [retryWithin, called]
  simp [retryable, spent]

theorem retryWithin_of_handed (called : operation state = (.error error, next))
    (retryable : error.isRetryable = true) {strategy after : Backoff} {wait : Duration}
    (handed : strategy.next = (some wait, after)) (fuel : Nat) :
    retryWithin operation pause (fuel + 1) strategy state =
      retryWithin operation pause fuel after (pause wait next) := by
  rw [retryWithin, called]
  simp [retryable, handed]

end Call

/-! ## Endeavours -/

/-- An operation that is retried with a strategy some of whose waits are used. -/
structure Endeavour (σ α : Type) where
  operation : σ → Except SessionError α × σ
  pause : Duration → σ → σ
  base : Duration
  limit : UInt32
  used : Nat
  start : σ

namespace Endeavour

variable {σ α : Type}

def run (e : Endeavour σ α) (calls : Nat) : Option (Except SessionError α × Backoff × σ) :=
  retryWithin e.operation e.pause calls ((Backoff.fresh e.base e.limit).take e.used) e.start

def before (e : Endeavour σ α) : Nat → σ
  | 0 => e.start
  | calls + 1 =>
      e.pause (Backoff.waitAt e.base (e.used + calls + 1)) (e.operation (e.before calls)).2

def result (e : Endeavour σ α) (call : Nat) : Except SessionError α :=
  (e.operation (e.before call)).1

def reached (e : Endeavour σ α) (call : Nat) : σ :=
  (e.operation (e.before call)).2

def counting (e : Endeavour σ α) : Endeavour (σ × Nat) α where
  operation s := ((e.operation s.1).1, (e.operation s.1).2, s.2 + 1)
  pause wait s := (e.pause wait s.1, s.2)
  base := e.base
  limit := e.limit
  used := e.used
  start := (e.start, 0)

/-- A result after which nothing is tried again: a success, or an error that is not retryable. -/
def IsFinal (result : Except SessionError α) : Prop :=
  ∀ error, result = .error error → error.isRetryable = false

/-- The call with the given index is the first with a final result. -/
def IsDecidedBy (e : Endeavour σ α) (call : Nat) : Prop :=
  IsFinal (e.result call) ∧ ∀ earlier < call, ¬IsFinal (e.result earlier)

/-- No two calls are the first with a final result. -/
theorem IsDecidedBy.eq {e : Endeavour σ α} {call other : Nat} (decided : e.IsDecidedBy call)
    (otherDecided : e.IsDecidedBy other) : call = other := by
  rcases Nat.lt_trichotomy call other with earlier | same | later
  · exact absurd decided.1 (otherDecided.2 call earlier)
  · exact same
  · exact absurd otherDecided.1 (decided.2 other later)

theorem not_isFinal_iff {result : Except SessionError α} :
    ¬IsFinal result ↔ ∃ error, result = .error error ∧ error.isRetryable = true := by
  simp [IsFinal]

theorem operation_before (e : Endeavour σ α) (call : Nat) :
    e.operation (e.before call) = (e.result call, e.reached call) :=
  rfl

theorem before_counting (e : Endeavour σ α) (call : Nat) :
    e.counting.before call = (e.before call, call) := by
  induction call with
  | zero => rfl
  | succ call ih =>
      rw [before, ih]
      rfl

theorem result_counting (e : Endeavour σ α) (call : Nat) :
    e.counting.result call = e.result call := by
  rw [result, before_counting]
  rfl

theorem reached_counting (e : Endeavour σ α) (call : Nat) :
    e.counting.reached call = (e.reached call, call + 1) := by
  rw [reached, before_counting]
  rfl

/-! ## Runs -/

/-- While results are retried and waits are left, retrying gets to the next call. -/
theorem run_of_retried (e : Endeavour σ α) (calls : Nat)
    (retried : ∀ call < calls, ¬IsFinal (e.result call))
    (left : 0 < e.limit.toNat → e.used + calls ≤ e.limit.toNat) (more : Nat) :
    e.run (more + calls) =
      retryWithin e.operation e.pause more (Backoff.after e.base e.limit (e.used + calls))
        (e.before calls) := by
  -- The last of the calls is one of those the calls before it leave, so `more` varies.
  induction calls generalizing more with
  | zero =>
      have taken : Backoff.take e.used (Backoff.fresh e.base e.limit) =
          Backoff.after e.base e.limit e.used :=
        Backoff.take_fresh left
      rw [Nat.add_zero, run, taken]
      rfl
  | succ calls ih =>
      have isReached := ih (fun call earlier => retried call (Nat.lt_succ_of_lt earlier))
        (fun limited => Nat.le_of_succ_le (left limited)) (more + 1)
      obtain ⟨error, isError, retryable⟩ := not_isFinal_iff.mp (retried calls (Nat.lt_succ_self calls))
      have called := e.operation_before calls
      rw [isError] at called
      rcases Backoff.next_after_cases e.base e.limit (e.used + calls) with
        ⟨⟨limited, reached⟩, -⟩ | ⟨-, handed⟩
      · have := left limited
        omega
      · rw [Nat.add_right_comm] at isReached
        rw [← Nat.add_assoc, isReached, retryWithin_of_handed called retryable handed]
        rfl

/--
Retrying returns the result of the call with the given index, the last one, and
leaves the given strategy; with fewer calls it does not return.
-/
structure Ends (e : Endeavour σ α) (last : Nat) (after : Backoff) : Prop where
  unfinished : ∀ calls ≤ last, e.counting.run calls = none
  returns : ∀ calls > last,
    e.counting.run calls = some (e.result last, after, e.reached last, last + 1)
  attempt_of_ok : ∀ value, e.result last = .ok value → after.attempt = 0
  attempt_of_error : ∀ error, e.result last = .error error →
    after.attempt = min (e.used + last) (2 ^ 32 - 1)
  exhausted : after.isExhausted = true ↔ 0 < e.limit.toNat ∧ e.limit.toNat ≤ after.attempt

variable {e : Endeavour σ α} {last : Nat}

/-- Before a call that can be got to, retrying does not return. -/
theorem run_counting_eq_none (retried : ∀ call < last, ¬IsFinal (e.result call))
    (left : 0 < e.limit.toNat → e.used + last ≤ e.limit.toNat) :
    ∀ calls ≤ last, e.counting.run calls = none := by
  intro calls early
  have isReached := e.counting.run_of_retried calls
    (fun call earlier => by
      rw [result_counting]
      exact retried call (Nat.lt_of_lt_of_le earlier early))
    (fun limited => Nat.le_trans (Nat.add_le_add_left early _) (left limited)) 0
  rw [Nat.zero_add] at isReached
  rw [isReached]
  rfl

/-- At a call that can be got to, retrying goes on as at its first. -/
theorem run_counting_of_gt (retried : ∀ call < last, ¬IsFinal (e.result call))
    (left : 0 < e.limit.toNat → e.used + last ≤ e.limit.toNat) {calls : Nat}
    (enough : calls > last) :
    ∃ more, e.counting.run calls =
      retryWithin e.counting.operation e.counting.pause (more + 1)
        (Backoff.after e.base e.limit (e.used + last)) (e.counting.before last) := by
  obtain ⟨more, rfl⟩ := Nat.exists_eq_add_of_lt enough
  have isReached := e.counting.run_of_retried last
    (fun call earlier => by
      rw [result_counting]
      exact retried call earlier) left (more + 1)
  have sum : last + more + 1 = more + 1 + last := by omega
  exact ⟨more, sum ▸ isReached⟩

theorem operation_counting (e : Endeavour σ α) (call : Nat) :
    e.counting.operation (e.counting.before call) =
      (e.result call, e.reached call, call + 1) := by
  rw [operation_before, result_counting, reached_counting]

/-- An error that is returned at a call that can be got to leaves the waits before it used. -/
theorem ends_of_error (retried : ∀ call < last, ¬IsFinal (e.result call))
    (left : 0 < e.limit.toNat → e.used + last ≤ e.limit.toNat) {error : SessionError}
    (isError : e.result last = .error error)
    (returned : ∀ more, retryWithin e.counting.operation e.counting.pause (more + 1)
        (Backoff.after e.base e.limit (e.used + last)) (e.counting.before last) =
      some (.error error, Backoff.after e.base e.limit (e.used + last),
        e.reached last, last + 1)) :
    e.Ends last (Backoff.after e.base e.limit (e.used + last)) where
  unfinished := run_counting_eq_none retried left
  returns calls enough := by
    obtain ⟨more, isReached⟩ := run_counting_of_gt retried left enough
    rw [isReached, returned, isError]
  attempt_of_ok := by
    rw [isError]
    nofun
  attempt_of_error _ _ := rfl
  exhausted := by
    rw [Backoff.isExhausted_after_iff]
    exact and_congr_right fun _ => (Backoff.limit_le_min_iff _ _).symm

/-- A first final result is returned if the waits last so long. -/
theorem IsDecidedBy.ends (decided : e.IsDecidedBy last)
    (left : 0 < e.limit.toNat → e.used + last ≤ e.limit.toNat) :
    ∃ after, e.Ends last after := by
  have called := e.operation_counting last
  cases isResult : e.result last with
  | ok value =>
      rw [isResult] at called
      refine ⟨Backoff.fresh e.base e.limit, run_counting_eq_none decided.2 left,
        fun calls enough => ?_, fun _ _ => rfl, ?_, ?_⟩
      · obtain ⟨more, isReached⟩ := run_counting_of_gt decided.2 left enough
        rw [isReached, retryWithin_of_ok called, isResult]
        rfl
      · rw [isResult]
        nofun
      · exact Backoff.isExhausted_after_iff e.base e.limit 0
  | error error =>
      rw [isResult] at called
      have final := decided.1 error isResult
      exact ⟨_, ends_of_error decided.2 left isResult fun more =>
        retryWithin_of_final called final more _⟩

/-- When the waits are used up the last error is returned. -/
theorem ends_of_spent (retried : ∀ call ≤ last, ¬IsFinal (e.result call))
    (limited : 0 < e.limit.toNat) (spent : e.used + last = e.limit.toNat) :
    ∃ after error, e.Ends last after ∧ e.result last = .error error := by
  have earlier (call : Nat) (isEarlier : call < last) := retried call (Nat.le_of_lt isEarlier)
  have left (_ : 0 < e.limit.toNat) := Nat.le_of_eq spent
  obtain ⟨error, isError, retryable⟩ := not_isFinal_iff.mp (retried last (Nat.le_refl last))
  have called := e.operation_counting last
  rw [isError] at called
  have exhausted : (Backoff.after e.base e.limit (e.used + last)).next =
      (none, Backoff.after e.base e.limit (e.used + last)) := by
    rcases Backoff.next_after_cases e.base e.limit (e.used + last) with ⟨-, none⟩ | ⟨unspent, -⟩
    · exact none
    · have := unspent limited
      omega
  exact ⟨_, error, ends_of_error earlier left isError fun more =>
    retryWithin_of_spent called retryable exhausted more, isError⟩

/-- Up to any call, either there is a first final result or all results are retried. -/
theorem exists_isDecidedBy_or (e : Endeavour σ α) (last : Nat) :
    (∃ call ≤ last, e.IsDecidedBy call) ∨ ∀ call ≤ last, ¬IsFinal (e.result call) := by
  induction last with
  | zero =>
      by_cases final : IsFinal (e.result 0)
      · exact Or.inl ⟨0, Nat.le_refl 0, final, fun _ impossible => absurd impossible (Nat.not_lt_zero _)⟩
      · refine Or.inr fun call isFirst => ?_
        rwa [Nat.le_zero.mp isFirst]
  | succ last ih =>
      rcases ih with ⟨call, early, decided⟩ | retried
      · exact Or.inl ⟨call, Nat.le_succ_of_le early, decided⟩
      · by_cases final : IsFinal (e.result (last + 1))
        · exact Or.inl ⟨last + 1, Nat.le_refl _, final,
            fun call earlier => retried call (Nat.le_of_lt_succ earlier)⟩
        · refine Or.inr fun call early => ?_
          rcases Nat.le_succ_iff.mp early with earlier | rfl
          · exact retried call earlier
          · exact final

/--
With a limit retrying always returns: the first final result if the waits that
are left last so long, and otherwise the error of the call after the last wait.
Without a limit it returns the first final result, and never if there is none.
-/
theorem retries_are_accounted (e : Endeavour σ α)
    (within : 0 < e.limit.toNat → e.used ≤ e.limit.toNat) :
    (0 < e.limit.toNat →
      ∃ last after, e.Ends last after ∧
        ((e.IsDecidedBy last ∧ last ≤ e.limit.toNat - e.used) ∨
          ((∀ call, e.IsDecidedBy call → e.limit.toNat - e.used < call) ∧
            last = e.limit.toNat - e.used ∧ ∃ error, e.result last = .error error))) ∧
    (e.limit.toNat = 0 →
      (∀ call, e.IsDecidedBy call → ∃ after, e.Ends call after) ∧
        ((∀ call, ¬e.IsDecidedBy call) → ∀ calls, e.counting.run calls = none)) := by
  constructor
  · intro limited
    have used := within limited
    rcases e.exists_isDecidedBy_or (e.limit.toNat - e.used) with ⟨call, early, decided⟩ | retried
    · obtain ⟨after, ends⟩ := decided.ends (by omega)
      exact ⟨call, after, ends, Or.inl ⟨decided, early⟩⟩
    · obtain ⟨after, error, ends, isError⟩ := ends_of_spent retried limited (by omega)
      refine ⟨_, after, ends, Or.inr ⟨fun call decided => ?_, rfl, error, isError⟩⟩
      exact Nat.lt_of_not_le fun early => retried call early decided.1
  · intro unlimited
    have left (last : Nat) (limited : 0 < e.limit.toNat) : e.used + last ≤ e.limit.toNat := by omega
    refine ⟨fun call decided => decided.ends (left call), fun undecided calls => ?_⟩
    have retried : ∀ call < calls, ¬IsFinal (e.result call) := by
      rcases e.exists_isDecidedBy_or calls with ⟨call, -, decided⟩ | retried
      · exact absurd decided (undecided call)
      · exact fun call earlier => retried call (Nat.le_of_lt earlier)
    exact run_counting_eq_none retried (left calls) calls (Nat.le_refl calls)

/-- An operation that finds no heartbeat twice and then succeeds, with one of three waits used. -/
def thirdTime : Endeavour (ResultScript Nat) Nat where
  operation := ResultScript.next
  pause _ script := script
  base := .ofMillis 500
  limit := 3
  used := 1
  start := { results := [.error (.noHeartbeat "tcp://localhost:11001"),
    .error (.noResponse "stop"), .ok 7] }

theorem isDecidedBy_thirdTime : thirdTime.IsDecidedBy 2 := by
  constructor
  · intro error isError
    cases isError
  · intro earlier early
    rw [not_isFinal_iff]
    obtain rfl | rfl : earlier = 0 ∨ earlier = 1 := by omega
    · exact ⟨.noHeartbeat "tcp://localhost:11001", rfl, rfl⟩
    · exact ⟨.noResponse "stop", rfl, rfl⟩

/-- The two waits that are left suffice for the third call, which starts the strategy over. -/
theorem retries_are_accounted_at_the_limit :
    (0 < thirdTime.limit.toNat → thirdTime.used ≤ thirdTime.limit.toNat) ∧
      ∃ after, thirdTime.Ends 2 after ∧ after.attempt = 0 := by
  have within : 0 < thirdTime.limit.toNat → thirdTime.used ≤ thirdTime.limit.toNat := by decide
  have decided := isDecidedBy_thirdTime
  obtain ⟨last, after, ends, account⟩ := (retries_are_accounted thirdTime within).1 (by decide)
  have isLast : last = 2 := by
    rcases account with ⟨isDecided, -⟩ | ⟨late, -⟩
    · exact isDecided.eq decided
    · exact absurd (late 2 decided) (by decide)
  subst isLast
  exact ⟨within, after, ends, ends.attempt_of_ok 7 rfl⟩

end Endeavour

end TaskLink
