import VectorSeam.Rounding

/-!
Spans of time and clock readings as the standard library keeps them: a span has 64-bit
seconds, a reading signed ones. Their arithmetic is absent where the library panics.
-/

namespace VectorSeam.Durations
open VectorSeam.Rounding

def NANOS_PER_SEC : Nat := 1000000000
def U64_BOUND : Nat := 2 ^ 64
def I64_BOUND : Nat := 2 ^ 63

structure Duration where
  as_secs : Nat
  subsec_nanos : Nat
  secs_fit : as_secs < U64_BOUND
  nanos_fit : subsec_nanos < NANOS_PER_SEC
deriving DecidableEq

theorem no_nanos : 0 < NANOS_PER_SEC := by decide

namespace Duration

def is_zero (duration : Duration) : Bool := duration.as_secs = 0 && duration.subsec_nanos = 0
def as_nanos (duration : Duration) : Nat := duration.as_secs * NANOS_PER_SEC + duration.subsec_nanos

def ZERO : Duration := ⟨0, 0, by decide, no_nanos⟩
def MAX : Duration := ⟨U64_BOUND - 1, NANOS_PER_SEC - 1, by decide, by decide⟩

/-- The span of a number of nanoseconds. -/
def from_nanos (nanos : Nat) : Option Duration :=
  if fits : nanos < U64_BOUND * NANOS_PER_SEC then
    some ⟨nanos / NANOS_PER_SEC, nanos % NANOS_PER_SEC, Nat.div_lt_of_lt_mul (Nat.mul_comm _ _ ▸ fits),
      Nat.mod_lt _ (by decide)⟩
  else none

def saturating_add (left right : Duration) : Duration := (from_nanos (left.as_nanos + right.as_nanos)).getD MAX

def as_secs_f64 (duration : Duration) : Float :=
  Float.ofNat duration.as_secs + Float.ofNat duration.subsec_nanos / Float.ofNat NANOS_PER_SEC

/-- The nearest span of whole nanoseconds, the even one of two. -/
def try_from_secs_f64 (secs : Float) : Option Duration :=
  match secs.toModel.unpack with
  | .zero _ => from_nanos 0
  | .finite .positive mantissa exponent _ => from_nanos (nearest (mantissa * 2 ^ exponent * NANOS_PER_SEC))
  | _ => none -- negative, infinite or not a number

def mul_f64 (duration : Duration) (rhs : Float) : Option Duration := try_from_secs_f64 (rhs * duration.as_secs_f64)

end Duration

/-- A reading of the monotonic clock, in nanoseconds since it started. -/
structure Instant where
  nanos : Nat
  fits : nanos < I64_BOUND * NANOS_PER_SEC
deriving DecidableEq

namespace Instant

def checked_add (instant : Instant) (duration : Duration) : Option Instant :=
  if fits : instant.nanos + duration.as_nanos < I64_BOUND * NANOS_PER_SEC then
    some ⟨instant.nanos + duration.as_nanos, fits⟩
  else none

def duration_since (instant earlier : Instant) : Duration :=
  (Duration.from_nanos (instant.nanos - earlier.nanos)).getD Duration.MAX

end Instant

end VectorSeam.Durations
