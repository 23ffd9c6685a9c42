import VectorSeam.Durations

/-!
The duty-cycle pacer of a data source. After each unit of database work it forbids the
next one for a cooldown in proportion to the time the unit took.
-/

namespace VectorSeam.Pacer
open VectorSeam.Durations

inductive PacerError where
  | InvalidShare
deriving DecidableEq, Repr

structure DutyCyclePacer where
  db_share : Float
  next_allowed : Instant
  work_count : Nat
  total_busy : Duration

def new (now : Instant) (db_share : Float) : Except PacerError DutyCyclePacer :=
  if !(db_share.isFinite && 0.0 < db_share && db_share ≤ 1.0) then .error .InvalidShare
  else .ok { db_share, next_allowed := now, work_count := 0, total_busy := Duration.ZERO }

/-- The cooldown after a unit that took `elapsed`. -/
def cooldown (db_share : Float) (elapsed : Duration) : Option Duration := elapsed.mul_f64 ((1.0 - db_share) / db_share)

/-- The bookkeeping after a unit of work, given the clock readings at its start, at its end and for the
    next unit; absent where the arithmetic panics. -/
def run_ready (pacer : DutyCyclePacer) (started finished now : Instant) : Option DutyCyclePacer := do
  let elapsed := finished.duration_since started
  let cooldown ← cooldown pacer.db_share elapsed
  let next_allowed ← now.checked_add cooldown
  return { pacer with
    next_allowed
    work_count := min (pacer.work_count + 1) (U64_BOUND - 1)
    total_busy := pacer.total_busy.saturating_add elapsed }

end VectorSeam.Pacer
