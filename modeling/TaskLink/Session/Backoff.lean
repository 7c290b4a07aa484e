import TaskLink.Duration
import TaskLink.Session.Error

/-!
# Retrying with backoff

Waits between retries double from a base up to a minute.  A strategy counts
the waits it handed out and may limit their number.
-/

namespace TaskLink

def longestBackoff : Duration := .ofSecs 60

/-- A schedule of waits; a limit of zero means no limit. -/
structure Backoff where
  base : Duration
  limit : Nat
  attempt : Nat := 0
  deriving DecidableEq

namespace Backoff

def attemptCap : Nat := UInt32.size - 1

def isExhausted (strategy : Backoff) : Bool :=
  0 < strategy.limit && strategy.limit ≤ strategy.attempt

/-- The factor of an attempt: a power of two as long as 32 bits hold it, then the largest number. -/
def factor (attempt : Nat) : Nat :=
  if attempt - 1 < 32 then 1 <<< (attempt - 1) else UInt32.size - 1

/-- The next wait, unless the limit is reached. -/
def next (strategy : Backoff) : Option Duration × Backoff :=
  if strategy.isExhausted then (none, strategy)
  else
    let attempt := Nat.min (strategy.attempt + 1) attemptCap
    (some ((strategy.base.times (factor attempt)).min longestBackoff),
     { strategy with attempt := attempt })

def reset (strategy : Backoff) : Backoff :=
  { strategy with attempt := 0 }

def take : Nat → Backoff → Backoff
  | 0, strategy => strategy
  | count + 1, strategy => take count strategy.next.2

end Backoff

/-! ## Retrying -/

variable {σ α : Type}

/--
Run an operation until it succeeds, fails for good, or the strategy is
exhausted; `pause` lets a wait pass.  Nothing is returned when `fuel` runs did
not suffice.
-/
def retryWithin (operation : σ → Except SessionError α × σ) (pause : Duration → σ → σ) :
    Nat → Backoff → σ → Option (Except SessionError α × Backoff × σ)
  | 0, _, _ => none
  | fuel + 1, strategy, state =>
      match operation state with
      | (.ok value, state) => some (.ok value, strategy.reset, state)
      | (.error error, state) =>
          if error.isRetryable then
            match strategy.next with
            | (some wait, strategy) =>
                retryWithin operation pause fuel strategy (pause wait state)
            | (none, strategy) => some (.error error, strategy, state)
          else some (.error error, strategy, state)

/-! ## Scripts -/

/-- Results that an operation gives one after the other, the last one for ever. -/
structure ResultScript (α : Type) where
  results : List (Except SessionError α)
  calls : Nat := 0

def ResultScript.next (script : ResultScript α) : Except SessionError α × ResultScript α :=
  match script.results with
  | [] => (.error (.invalidState "no result"), { script with calls := script.calls + 1 })
  | [last] => (last, ⟨[last], script.calls + 1⟩)
  | result :: rest => (result, ⟨rest, script.calls + 1⟩)

end TaskLink
