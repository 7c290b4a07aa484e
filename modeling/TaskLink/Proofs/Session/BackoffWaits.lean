import Mathlib.Algebra.Group.Nat.Defs
import TaskLink.Session.Backoff

/-!
# The waits of a backoff

The waits that a strategy hands out since it was made or last started over
double from its base up to a minute.  The factor of a wait stops one short of
2 ^ 32, so a base of less than fourteen nanoseconds never gets to the minute:
from the thirty-third wait on such a strategy waits always the same time.
-/

namespace TaskLink

namespace Backoff

/-! ## One wait -/

def waitAt (base : Duration) (attempt : Nat) : Duration :=
  (base.times (factor attempt)).min longestBackoff

theorem factor_of_lt {doublings : Nat} (few : doublings < 32) :
    factor (doublings + 1) = 2 ^ doublings := by
  rw [factor, Nat.add_sub_cancel, if_pos few, Nat.one_shiftLeft]

theorem factor_of_ge {doublings : Nat} (many : 32 ≤ doublings) :
    factor (doublings + 1) = 2 ^ 32 - 1 := by
  have stopped : ¬doublings + 1 - 1 < 32 := by omega
  exact if_neg stopped

/-- The factor does not change any more where attempts are no longer counted. -/
theorem factor_min (attempt : Nat) : factor (Nat.min attempt attemptCap) = factor attempt := by
  rcases Nat.le_total attempt attemptCap with counted | uncounted
  · exact congrArg factor (Nat.min_eq_left counted)
  · have atCap : Nat.min attempt attemptCap = attemptCap := Nat.min_eq_right uncounted
    have large : 32 ≤ attempt - 1 := by
      have : 33 ≤ attemptCap := by decide
      omega
    rw [atCap, factor, factor, if_neg (Nat.not_lt.mpr large), if_neg (by decide)]

theorem waitAt_min (base : Duration) (attempt : Nat) :
    waitAt base (Nat.min attempt attemptCap) = waitAt base attempt := by
  rw [waitAt, waitAt, factor_min]

theorem nanos_waitAt (base : Duration) (attempt : Nat) :
    (waitAt base attempt).nanos = min (base.nanos * factor attempt) (60 * nanosPerSec) := by
  have minute : longestBackoff.nanos = 60 * nanosPerSec := rfl
  have short : 60 * nanosPerSec ≤ UInt64.size * nanosPerSec - 1 := by decide
  rw [waitAt, Duration.nanos_min, minute, Duration.times, Duration.nanos_ofNanos]
  change min (min _ _) _ = _
  omega

/-- A base that 2 ^ 32 - 1 takes to a minute is one of fourteen nanoseconds or more. -/
theorem minute_le_mul_iff (nanos : Nat) :
    60 * nanosPerSec ≤ nanos * (2 ^ 32 - 1) ↔ 14 ≤ nanos := by
  unfold nanosPerSec
  omega

/-- The wait after some doublings is the doubled base, at most a minute, unless the base is tiny. -/
theorem nanos_waitAt_eq_iff (base : Duration) (doublings : Nat) :
    (waitAt base (doublings + 1)).nanos = min (base.nanos * 2 ^ doublings) (60 * nanosPerSec) ↔
      doublings < 32 ∨ base.nanos = 0 ∨ 14 ≤ base.nanos := by
  rw [nanos_waitAt]
  rcases Nat.lt_or_ge doublings 32 with few | many
  · simp [factor_of_lt few, few]
  · have more : base.nanos * (2 ^ 32 - 1) + base.nanos ≤ base.nanos * 2 ^ doublings := by
      calc base.nanos * (2 ^ 32 - 1) + base.nanos
        _ = base.nanos * 2 ^ 32 := (Nat.mul_succ _ _).symm
        _ ≤ base.nanos * 2 ^ doublings :=
          Nat.mul_le_mul_left _ (Nat.pow_le_pow_right (by decide) many)
    have reached := minute_le_mul_iff base.nanos
    have none : base.nanos = 0 → base.nanos * 2 ^ doublings = 0 := by
      intro empty
      rw [empty, Nat.zero_mul]
    rw [factor_of_ge many]
    generalize base.nanos * 2 ^ doublings = doubled at *
    generalize base.nanos * (2 ^ 32 - 1) = stopped at *
    generalize 60 * nanosPerSec = minute at *
    omega

/-! ## The next wait -/

def fresh (base : Duration) (limit : UInt32) : Backoff :=
  { base := base, limit := limit.toNat }

def after (base : Duration) (limit : UInt32) (waits : Nat) : Backoff :=
  { fresh base limit with attempt := Nat.min waits attemptCap }

/-- A limit is never beyond the attempts that are counted. -/
theorem limit_le_min_iff (limit : UInt32) (waits : Nat) :
    limit.toNat ≤ Nat.min waits attemptCap ↔ limit.toNat ≤ waits := by
  have counted : limit.toNat ≤ attemptCap := Nat.le_sub_one_of_lt limit.toNat_lt_size
  change _ ≤ min _ _ ↔ _
  omega

theorem isExhausted_after_iff (base : Duration) (limit : UInt32) (waits : Nat) :
    (after base limit waits).isExhausted = true ↔ 0 < limit.toNat ∧ limit.toNat ≤ waits := by
  rw [isExhausted, Bool.and_eq_true, decide_eq_true_iff, decide_eq_true_iff]
  exact and_congr_right fun _ => limit_le_min_iff limit waits

/-- Asking for the next wait either finds the limit reached or counts one more wait. -/
theorem next_after_cases (base : Duration) (limit : UInt32) (waits : Nat) :
    ((0 < limit.toNat ∧ limit.toNat ≤ waits) ∧
        (after base limit waits).next = (none, after base limit waits)) ∨
      ((0 < limit.toNat → waits < limit.toNat) ∧
        (after base limit waits).next =
          (some (waitAt base (waits + 1)), after base limit (waits + 1))) := by
  have exhausted := isExhausted_after_iff base limit waits
  by_cases spent : (after base limit waits).isExhausted = true
  · exact Or.inl ⟨exhausted.mp spent, by rw [next, if_pos spent]⟩
  · refine Or.inr ⟨fun limited => Nat.lt_of_not_le fun reached =>
      spent (exhausted.mpr ⟨limited, reached⟩), ?_⟩
    have counted : Nat.min (Nat.min waits attemptCap + 1) attemptCap =
        Nat.min (waits + 1) attemptCap := by
      change min (min _ _ + 1) _ = min _ _
      omega
    rw [next, if_neg spent]
    change (some (waitAt base (Nat.min (Nat.min waits attemptCap + 1) attemptCap)), _) = _
    rw [counted, waitAt_min]
    simp only [after, counted]

/-- Within the limit, every wait that is taken is handed out and counted. -/
theorem take_after {base : Duration} {limit : UInt32} {waits count : Nat}
    (within : 0 < limit.toNat → waits + count ≤ limit.toNat) :
    take count (after base limit waits) = after base limit (waits + count) := by
  induction count generalizing waits with
  | zero => rfl
  | succ count ih =>
      rcases next_after_cases base limit waits with ⟨⟨limited, reached⟩, -⟩ | ⟨-, handed⟩
      · have := within limited
        omega
      · rw [take, handed, ih (by omega), Nat.add_right_comm, Nat.add_assoc]

theorem take_fresh {base : Duration} {limit : UInt32} {waits : Nat}
    (within : 0 < limit.toNat → waits ≤ limit.toNat) :
    take waits (fresh base limit) = after base limit waits := by
  have taken : take waits (after base limit 0) = after base limit (0 + waits) :=
    take_after (by rwa [Nat.zero_add])
  rwa [Nat.zero_add] at taken

end Backoff

/-! ## Runs -/

inductive BackoffMove where
  | next
  | reset
  deriving DecidableEq

/-- A strategy with the waits that it handed out since it was made or last started over. -/
structure BackoffRecord where
  strategy : Backoff
  waits : List Duration := []
  deriving DecidableEq

namespace BackoffRecord

def step (record : BackoffRecord) : BackoffMove → BackoffRecord
  | .next =>
      match record.strategy.next with
      | (some wait, strategy) => ⟨strategy, record.waits ++ [wait]⟩
      | (none, strategy) => ⟨strategy, record.waits⟩
  | .reset => ⟨record.strategy.reset, []⟩

def run (base : Duration) (limit : UInt32) (moves : List BackoffMove) : BackoffRecord :=
  moves.foldl step { strategy := Backoff.fresh base limit }

/-- The waits are those of the attempts so far, and as many as the limit allows. -/
structure IsSound (base : Duration) (limit : UInt32) (record : BackoffRecord) : Prop where
  strategy : record.strategy = Backoff.after base limit record.waits.length
  waits : record.waits =
    (List.range record.waits.length).map fun doublings => Backoff.waitAt base (doublings + 1)
  allowed : 0 < limit.toNat → record.waits.length ≤ limit.toNat

variable {base : Duration} {limit : UInt32} {record : BackoffRecord}

theorem IsSound.step (sound : record.IsSound base limit) (move : BackoffMove) :
    (record.step move).IsSound base limit := by
  obtain ⟨strategy, waits⟩ := record
  obtain ⟨isAfter, areWaits, allowed⟩ := sound
  dsimp only at isAfter areWaits allowed
  subst isAfter
  cases move with
  | reset => exact ⟨rfl, rfl, fun _ => Nat.zero_le _⟩
  | next =>
      unfold BackoffRecord.step
      dsimp only
      rcases Backoff.next_after_cases base limit waits.length with ⟨-, spent⟩ | ⟨left, handed⟩
      · rw [spent]
        exact ⟨rfl, areWaits, allowed⟩
      · rw [handed]
        refine ⟨by simp, ?_, by simpa [Nat.succ_le_iff] using left⟩
        simp [List.range_succ, ← areWaits]

theorem run_isSound (base : Duration) (limit : UInt32) (moves : List BackoffMove) :
    (run base limit moves).IsSound base limit := by
  have begun : IsSound base limit { strategy := Backoff.fresh base limit } :=
    ⟨rfl, rfl, fun _ => Nat.zero_le _⟩
  unfold run
  generalize ({ strategy := Backoff.fresh base limit } : BackoffRecord) = record at begun ⊢
  induction moves generalizing record with
  | nil => exact begun
  | cons move rest ih => exact ih _ (begun.step move)

/-- Every wait of a run is the base doubled by each wait before it, and at most a minute. -/
def Doubles (base : Duration) (record : BackoffRecord) : Prop :=
  ∀ doublings wait, record.waits[doublings]? = some wait →
    wait.nanos = min (base.nanos * 2 ^ doublings) (60 * nanosPerSec)

theorem IsSound.waits_getElem? (sound : record.IsSound base limit) {doublings : Nat}
    {wait : Duration} (found : record.waits[doublings]? = some wait) :
    wait = Backoff.waitAt base (doublings + 1) := by
  rw [sound.waits, List.getElem?_map] at found
  obtain ⟨index, isIndex, rfl⟩ := Option.map_eq_some_iff.mp found
  obtain ⟨inside, rfl⟩ := List.getElem?_eq_some_iff.mp isIndex
  rw [List.getElem_range]

/--
After any moves, a wait is the doubled base exactly if it is one of the first
thirty-two or the base is not tiny; a tiny base is multiplied by 2 ^ 32 - 1 from
then on.  The attempts are counted up to 2 ^ 32 - 1.  No wait is handed out
beyond the limit, and every one up to it is.
-/
theorem waits_double_unless_tiny (base : Duration) (limit : UInt32) (moves : List BackoffMove) :
    (∀ doublings wait, (run base limit moves).waits[doublings]? = some wait →
      (wait.nanos = min (base.nanos * 2 ^ doublings) (60 * nanosPerSec) ↔
        doublings < 32 ∨ base.nanos = 0 ∨ 14 ≤ base.nanos) ∧
      (32 ≤ doublings → wait.nanos = min (base.nanos * (2 ^ 32 - 1)) (60 * nanosPerSec))) ∧
    (run base limit moves).strategy.attempt =
      min (run base limit moves).waits.length (2 ^ 32 - 1) ∧
    (0 < limit.toNat → (run base limit moves).waits.length ≤ limit.toNat) ∧
    ((run base limit moves).strategy.next.1 = none ↔
      0 < limit.toNat ∧ limit.toNat ≤ (run base limit moves).waits.length) := by
  have sound := run_isSound base limit moves
  refine ⟨fun doublings wait found => ?_, ?_, sound.allowed, ?_⟩
  · obtain rfl := sound.waits_getElem? found
    refine ⟨Backoff.nanos_waitAt_eq_iff base doublings, fun many => ?_⟩
    rw [Backoff.nanos_waitAt, Backoff.factor_of_ge many]
  · rw [sound.strategy]
    rfl
  · rw [sound.strategy]
    rcases Backoff.next_after_cases base limit (run base limit moves).waits.length with
      ⟨reached, spent⟩ | ⟨left, handed⟩
    · rw [spent]
      exact iff_of_true rfl reached
    · rw [handed]
      refine iff_of_false (by simp) ?_
      rintro ⟨limited, reached⟩
      exact Nat.not_le.mpr (left limited) reached

/-- From a nanosecond the thirty-third wait is one short of 2 ^ 32 nanoseconds. -/
theorem thirty_third_wait_is_not_doubled :
    ∃ wait,
      (run (.ofNanos 1) 0 (List.replicate 33 .next)).waits[32]? = some wait ∧
        wait.nanos = 4294967295 ∧
        ¬Doubles (.ofNanos 1) (run (.ofNanos 1) 0 (List.replicate 33 .next)) := by
  have stopped : ((run (.ofNanos 1) 0 (List.replicate 33 .next)).waits[32]?).map (·.nanos) =
      some 4294967295 := by
    decide +kernel
  obtain ⟨wait, found, nanos⟩ := Option.map_eq_some_iff.mp stopped
  refine ⟨wait, found, nanos, fun doubles => ?_⟩
  have doubled := doubles 32 wait found
  rw [nanos] at doubled
  exact absurd doubled (by decide)

end BackoffRecord

end TaskLink
