import VectorSeam.Cohort
import VectorSeam.Ulids

/-!
Tumbling windows and the UTC timestamps that name them in object keys. Seconds are
unsigned 64-bit values carried as naturals; the calendar arithmetic is on the signed
integers of the source, whose division truncates.
-/

namespace VectorSeam.Window
open VectorSeam.Cohort VectorSeam.Ulids

def SECONDS_PER_DAY : Nat := 86400
def SECONDS_PER_HOUR : Nat := 3600
def SECONDS_PER_MINUTE : Nat := 60

inductive WindowError where
  | ZeroDuration
  | TimestampOutOfRange
deriving DecidableEq, Repr

def aligned_window_start (unix_seconds window_seconds : Nat) : Except WindowError Nat :=
  if window_seconds = 0 then .error .ZeroDuration else .ok (unix_seconds - unix_seconds % window_seconds)

/-- Days since 1970-01-01 as year, month and day of the Gregorian calendar. -/
def civil_from_days (days_since_unix_epoch : Int) : Except WindowError (Int × Int × Int) :=
  if 2 ^ 63 ≤ days_since_unix_epoch + 719468 then .error .TimestampOutOfRange
  else
    let z := days_since_unix_epoch + 719468
    let era := (if z ≥ 0 then z else z - 146096).tdiv 146097
    let doe := z - era * 146097
    let yoe := (doe - doe.tdiv 1460 + doe.tdiv 36524 - doe.tdiv 146096).tdiv 365
    let year := yoe + era * 400
    let doy := doe - (365 * yoe + yoe.tdiv 4 - yoe.tdiv 100)
    let mp := (5 * doy + 2).tdiv 153
    let day := doy - (153 * mp + 2).tdiv 5 + 1
    let month := mp + if mp < 10 then 3 else -9
    let adjusted_year := year + if month ≤ 2 then 1 else 0
    .ok (adjusted_year, month, day)

/-- Decimal with zeros in front up to a width, the sign counted in it. -/
def zero_padded (width : Nat) (value : Int) : String :=
  let sign := if value < 0 then ['-'] else []
  let digits := Nat.toDigits 10 value.natAbs
  String.ofList (sign ++ List.replicate (width - sign.length - digits.length) '0' ++ digits)

/-- `YYYYMMDDTHHMMZ`, the name of a window in object keys. -/
def format_window_timestamp (window_start : Nat) : Except WindowError String :=
  let days := window_start / SECONDS_PER_DAY
  let seconds_of_day := window_start % SECONDS_PER_DAY
  if 2 ^ 63 ≤ days then .error .TimestampOutOfRange
  else
    match civil_from_days days with
    | .error error => .error error
    | .ok (year, month, day) =>
      let hour := seconds_of_day / SECONDS_PER_HOUR
      let minute := seconds_of_day % SECONDS_PER_HOUR / SECONDS_PER_MINUTE
      .ok (zero_padded 4 year ++ zero_padded 2 month ++ zero_padded 2 day ++ "T" ++ zero_padded 2 hour ++
        zero_padded 2 minute ++ "Z")

/-- The key of a flushed segment part. -/
def object_key (cohort : CohortName) (window_start : Nat) (part : Ulid) : Except WindowError String :=
  match format_window_timestamp window_start with
  | .error error => .error error
  | .ok timestamp => .ok ("cohorts/" ++ cohort.name ++ "/window=" ++ timestamp ++ "/part-" ++ part.to_string ++ ".vseam")

/-- The bytes of an ASCII timestamp from one offset up to another. -/
private def slice (text : String) (start finish : Nat) : String :=
  String.ofList ((text.toList.take finish).drop start)

def iso8601_seconds (unix_seconds : Nat) : Except WindowError String :=
  match format_window_timestamp unix_seconds with
  | .error error => .error error
  | .ok compact =>
    .ok (slice compact 0 4 ++ "-" ++ slice compact 4 6 ++ "-" ++ slice compact 6 8 ++ "T" ++ slice compact 9 11 ++ ":" ++
      slice compact 11 13 ++ ":00Z")

/-! ### Formatting succeeds on every 64-bit timestamp -/

theorem civil_from_days_ok {days : Int} (small : days + 719468 < 2 ^ 63) : ∃ date, civil_from_days days = .ok date := by
  unfold civil_from_days
  rw [if_neg (by omega)]
  exact ⟨_, rfl⟩

/-- A Unix second of the source's 64-bit type always has a window name. -/
theorem format_window_timestamp_ok {window_start : Nat} (bounded : window_start < 2 ^ 64) :
    ∃ timestamp, format_window_timestamp window_start = .ok timestamp := by
  have days : window_start / SECONDS_PER_DAY < 2 ^ 48 := by unfold SECONDS_PER_DAY; omega
  have small : ((window_start / SECONDS_PER_DAY : Nat) : Int) + 719468 < 2 ^ 63 := by omega
  obtain ⟨date, found⟩ := civil_from_days_ok small
  unfold format_window_timestamp
  simp only [found]
  rw [if_neg (by omega)]
  exact ⟨_, rfl⟩

/-- A window name exists exactly up to the calendar's last day. -/
theorem format_window_timestamp_iff {window_start : Nat} :
    (∃ timestamp, format_window_timestamp window_start = .ok timestamp) ↔
      ((window_start / SECONDS_PER_DAY : Nat) : Int) + 719468 < 2 ^ 63 := by
  unfold format_window_timestamp
  constructor
  · rintro ⟨timestamp, formatted⟩
    by_cases large : 2 ^ 63 ≤ window_start / SECONDS_PER_DAY
    · rw [if_pos large] at formatted
      cases formatted
    rw [if_neg large] at formatted
    by_cases far : 2 ^ 63 ≤ ((window_start / SECONDS_PER_DAY : Nat) : Int) + 719468
    · rw [civil_from_days, if_pos far] at formatted
      cases formatted
    · exact Int.not_le.mp far
  · intro near
    obtain ⟨date, dated⟩ := civil_from_days_ok near
    have small : ¬2 ^ 63 ≤ window_start / SECONDS_PER_DAY := by
      intro large
      have cast : (2 : Int) ^ 63 ≤ ((window_start / SECONDS_PER_DAY : Nat) : Int) := by exact_mod_cast large
      omega
    simp only [if_neg small, dated]
    exact ⟨_, rfl⟩

/-- Before a Unix second that has a window name, all have one. -/
theorem format_window_timestamp_le {window_start round_end : Nat} {name : String} (le : window_start ≤ round_end)
    (formatted : format_window_timestamp round_end = .ok name) :
    ∃ timestamp, format_window_timestamp window_start = .ok timestamp := by
  have days : window_start / SECONDS_PER_DAY ≤ round_end / SECONDS_PER_DAY := Nat.div_le_div_right le
  have near := format_window_timestamp_iff.mp ⟨name, formatted⟩
  have cast : ((window_start / SECONDS_PER_DAY : Nat) : Int) ≤ ((round_end / SECONDS_PER_DAY : Nat) : Int) := by
    exact_mod_cast days
  exact format_window_timestamp_iff.mpr (lt_of_le_of_lt (Int.add_le_add_right cast _) near)

/-- An ISO 8601 text carries the fields of the window name. -/
theorem iso8601_seconds_ok {unix_seconds : Nat} {compact year month day hour minute : String}
    (formatted : format_window_timestamp unix_seconds = .ok compact)
    (text : compact = year ++ month ++ day ++ "T" ++ hour ++ minute ++ "Z") (yearLong : year.toList.length = 4)
    (monthLong : month.toList.length = 2) (dayLong : day.toList.length = 2) (hourLong : hour.toList.length = 2)
    (minuteLong : minute.toList.length = 2) :
    iso8601_seconds unix_seconds =
      .ok (year ++ "-" ++ month ++ "-" ++ day ++ "T" ++ hour ++ ":" ++ minute ++ ":00Z") := by
  have whole : compact.toList =
      year.toList ++ (month.toList ++ (day.toList ++ ('T' :: (hour.toList ++ (minute.toList ++ ['Z']))))) := by
    rw [text]
    simp [String.toList_append]
  have fields : slice compact 0 4 = year ∧ slice compact 4 6 = month ∧ slice compact 6 8 = day ∧
      slice compact 9 11 = hour ∧ slice compact 11 13 = minute := by
    simp only [slice, whole, ← String.toList_inj, String.toList_ofList]
    simp [List.take_append, List.drop_append, List.take_of_length_le, List.drop_eq_nil_of_le, yearLong, monthLong, dayLong,
      hourLong, minuteLong]
  obtain ⟨years, months, days, hours, minutes⟩ := fields
  simp only [iso8601_seconds, formatted, years, months, days, hours, minutes]

theorem aligned_window_start_le {unix_seconds window_seconds start : Nat}
    (aligned : aligned_window_start unix_seconds window_seconds = .ok start) :
    start ≤ unix_seconds ∧ unix_seconds < start + window_seconds ∧ window_seconds ∣ start := by
  unfold aligned_window_start at aligned
  by_cases zero : window_seconds = 0
  · simp [zero] at aligned
  · rw [if_neg zero] at aligned
    obtain rfl := Except.ok.inj aligned
    have rest := Nat.mod_lt unix_seconds (Nat.pos_of_ne_zero zero)
    have part := Nat.mod_le unix_seconds window_seconds
    exact ⟨by omega, by omega, Nat.dvd_sub_mod unix_seconds⟩

example : format_window_timestamp 1783513800 = .ok "20260708T1230Z" := by decide
example : iso8601_seconds 1783513800 = .ok "2026-07-08T12:30:00Z" := by decide

end VectorSeam.Window
