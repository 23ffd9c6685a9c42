import VectorSeam.Gregorian
import VectorSeam.Keys

/-!
Window timestamps encode the calendar. The date of a day count is the one Gregorian date
with that count, and no step of its computation leaves the 64-bit integers. Before year
10000 timestamps are ordered like the instants they name, which is what the sorted round
files of a cohort and the separation of its windows rest on, and the ISO 8601 text of a
whole minute denotes that minute.
-/

namespace VectorSeam.Timestamps
open VectorSeam.Window VectorSeam.Calendar VectorSeam.Gregorian VectorSeam.Cohort VectorSeam.ObjectStore VectorSeam.Pipeline
open VectorSeam.Keys VectorSeam.Text

/-! ### Arithmetic within 64 bits -/

/-- A value of a signed 64-bit integer; there is none for a value outside the type. -/
def i64 (value : Int) : Option Int := if -9223372036854775808 ≤ value ∧ value < 9223372036854775808 then some value else none

def era_i64 (z : Int) : Option Int := do
  let dividend ← (if z ≥ 0 then some z else i64 (z - 146096))
  i64 (dividend.tdiv 146097)

def doe_i64 (z era : Int) : Option Int := do
  let passed ← i64 (era * 146097)
  i64 (z - passed)

def yoe_i64 (doe : Int) : Option Int := do
  let quarters ← i64 (doe.tdiv 1460)
  let leaps ← i64 (doe - quarters)
  let hundreds ← i64 (doe.tdiv 36524)
  let centuries ← i64 (leaps + hundreds)
  let eras ← i64 (doe.tdiv 146096)
  let days ← i64 (centuries - eras)
  i64 (days.tdiv 365)

def doy_i64 (doe yoe : Int) : Option Int := do
  let years ← i64 (365 * yoe)
  let quarters ← i64 (yoe.tdiv 4)
  let leaps ← i64 (years + quarters)
  let hundreds ← i64 (yoe.tdiv 100)
  let passed ← i64 (leaps - hundreds)
  i64 (doe - passed)

def mp_i64 (doy : Int) : Option Int := do
  let fives ← i64 (5 * doy)
  let shifted ← i64 (fives + 2)
  i64 (shifted.tdiv 153)

def day_i64 (doy mp : Int) : Option Int := do
  let months ← i64 (153 * mp)
  let shifted ← i64 (months + 2)
  let passed ← i64 (shifted.tdiv 5)
  let index ← i64 (doy - passed)
  i64 (index + 1)

/-- The calendar arithmetic with the range of the integer type checked at every operation. -/
def civil_from_days_i64 (days_since_unix_epoch : Int) : Option (Int × Int × Int) := do
  let z ← i64 (days_since_unix_epoch + 719468)
  let era ← era_i64 z
  let doe ← doe_i64 z era
  let yoe ← yoe_i64 doe
  let years ← i64 (era * 400)
  let year ← i64 (yoe + years)
  let doy ← doy_i64 doe yoe
  let mp ← mp_i64 doy
  let day ← day_i64 doy mp
  let month ← i64 (mp + if mp < 10 then 3 else -9)
  let adjusted_year ← i64 (year + if month ≤ 2 then 1 else 0)
  return (adjusted_year, month, day)

private theorem i64_ok {value : Int} (least : -9223372036854775808 ≤ value) (greatest : value < 9223372036854775808) :
    i64 value = some value :=
  if_pos ⟨least, greatest⟩

private theorem then_ok {A B : Type} {first : Option A} {value : A} {next : A → Option B} {result : B}
    (computed : first = some value) (rest : next value = some result) : (first >>= next) = some result :=
  Option.bind_eq_some_iff.mpr ⟨value, computed, rest⟩

private theorem i64_then {B : Type} {value : Int} {next : Int → Option B} {result : B} (least : -9223372036854775808 ≤ value)
    (greatest : value < 9223372036854775808) (rest : next value = some result) : (i64 value >>= next) = some result :=
  then_ok (i64_ok least greatest) rest

private theorem era_i64_ok {z : Int} (least : 0 ≤ z) (greatest : z < 9223372036854775808) :
    era_i64 z = some (z / 146097) := by
  refine then_ok (if_pos least) ?_
  rw [Int.tdiv_eq_ediv_of_nonneg least]
  exact i64_ok (by omega) (by omega)

private theorem yoe_i64_ok {doe : Int} (least : 0 ≤ doe) (greatest : doe < 146097) :
    yoe_i64 doe = some ((doe - doe / 1460 + doe / 36524 - doe / 146096) / 365) := by
  unfold yoe_i64
  rw [Int.tdiv_eq_ediv_of_nonneg least, Int.tdiv_eq_ediv_of_nonneg least, Int.tdiv_eq_ediv_of_nonneg least]
  refine i64_then (by omega) (by omega) ?_
  refine i64_then (by omega) (by omega) ?_
  refine i64_then (by omega) (by omega) ?_
  refine i64_then (by omega) (by omega) ?_
  refine i64_then (by omega) (by omega) ?_
  refine i64_then (by omega) (by omega) ?_
  rw [Int.tdiv_eq_ediv_of_nonneg (by omega)]
  exact i64_ok (by omega) (by omega)

private theorem doy_i64_ok {doe yoe : Int} (least : 0 ≤ doe) (greatest : doe < 146097) (yoeRange : 0 ≤ yoe ∧ yoe ≤ 399) :
    doy_i64 doe yoe = some (doe - (365 * yoe + yoe / 4 - yoe / 100)) := by
  unfold doy_i64
  rw [Int.tdiv_eq_ediv_of_nonneg yoeRange.1, Int.tdiv_eq_ediv_of_nonneg yoeRange.1]
  refine i64_then (by omega) (by omega) ?_
  refine i64_then (by omega) (by omega) ?_
  refine i64_then (by omega) (by omega) ?_
  refine i64_then (by omega) (by omega) ?_
  refine i64_then (by omega) (by omega) ?_
  exact i64_ok (by omega) (by omega)

private theorem mp_i64_ok {doy : Int} (range : 0 ≤ doy ∧ doy ≤ 366) : mp_i64 doy = some ((5 * doy + 2) / 153) := by
  refine i64_then (by omega) (by omega) ?_
  refine i64_then (by omega) (by omega) ?_
  rw [Int.tdiv_eq_ediv_of_nonneg (by omega)]
  exact i64_ok (by omega) (by omega)

private theorem day_i64_ok {doy mp : Int} (doyRange : 0 ≤ doy ∧ doy ≤ 366) (mpRange : 0 ≤ mp ∧ mp ≤ 11) :
    day_i64 doy mp = some (doy - (153 * mp + 2) / 5 + 1) := by
  refine i64_then (by omega) (by omega) ?_
  refine i64_then (by omega) (by omega) ?_
  rw [Int.tdiv_eq_ediv_of_nonneg (by omega)]
  refine i64_then (by omega) (by omega) ?_
  refine i64_then (by omega) (by omega) ?_
  exact i64_ok (by omega) (by omega)

theorem civil_from_days_i64_ok {days : Nat} {year month day : Int} (small : days < 281474976710656)
    (found : civil_from_days days = .ok (year, month, day)) : civil_from_days_i64 days = some (year, month, day) := by
  obtain ⟨era, doe, yoe, doy, mp, split⟩ := civil_from_days_split found
  have yoeRange := split.yoe_range
  have doyRange := split.doy_range
  have mpRange := split.mp_range
  have months := split.dated.month_range
  obtain ⟨eraNonneg, ⟨doeLeast, doeGreatest⟩, whole, yoeSame, doySame, mpSame, daySame, monthSame, yearSame⟩ := split
  have eraSame : ((days : Int) + 719468) / 146097 = era := by omega
  have doeOk : doe_i64 (days + 719468) era = some doe := by
    refine i64_then (by omega) (by omega) ?_
    exact (i64_ok (by omega) (by omega)).trans (congrArg some (by omega))
  refine i64_then (by omega) (by omega) ?_
  refine then_ok ((era_i64_ok (by omega) (by omega)).trans (congrArg some eraSame)) ?_
  refine then_ok doeOk ?_
  refine then_ok ((yoe_i64_ok doeLeast doeGreatest).trans (congrArg some yoeSame.symm)) ?_
  refine i64_then (by omega) (by omega) ?_
  refine i64_then (by omega) (by omega) ?_
  refine then_ok ((doy_i64_ok doeLeast doeGreatest yoeRange).trans (congrArg some doySame.symm)) ?_
  refine then_ok ((mp_i64_ok doyRange).trans (congrArg some mpSame.symm)) ?_
  refine then_ok ((day_i64_ok doyRange mpRange).trans (congrArg some daySame.symm)) ?_
  rw [← monthSame]
  refine i64_then (by omega) (by omega) ?_
  rw [← yearSame]
  have yearWithin : -9223372036854775808 ≤ year ∧ year < 9223372036854775808 := by
    rw [yearSame]
    split <;> omega
  exact i64_then yearWithin.1 yearWithin.2 rfl
/-! ### The date of a day count -/

private theorem next_year {doe yoe : Int} (least : 0 ≤ doe) (greatest : doe < 146097)
    (year : yoe = (doe - doe / 1460 + doe / 36524 - doe / 146096) / 365) :
    doe < 365 * (yoe + 1) + (yoe + 1) / 4 - (yoe + 1) / 100 + (yoe + 1) / 400 := by
  obtain ⟨century, centurySame⟩ : ∃ century, century = doe / 36524 := ⟨_, rfl⟩
  have centuries : 0 ≤ century ∧ century ≤ 4 := by omega
  have remaining : doe - doe / 1460 + century - doe / 146096 < 365 * (yoe + 1) := by omega
  have fours : doe / 1460 ≤ (yoe + 1) / 4 := by omega
  by_cases complete : 100 * (century + 1) ≤ yoe + 1
  · have grown : 36524 * (century + 1) ≤ 365 * (yoe + 1) + (yoe + 1) / 4 - (yoe + 1) / 100 := by omega
    have notYet : doe < 36524 * (century + 1) := by omega
    omega
  · have passed : (yoe + 1) / 100 ≤ century := by omega
    by_cases leapDay : doe = 146096
    · subst leapDay
      omega
    · have ordinary : doe / 146096 = 0 := by omega
      omega

private theorem march (year : Int) {month : Nat} {mp : Int} (range : 1 ≤ month ∧ month ≤ 12)
    (shift : (month : Int) = mp + if mp < 10 then 3 else -9) (mpRange : 0 ≤ mp ∧ mp ≤ 11):
    days_before_year year + days_before_month year month =
      days_before_year (if month ≤ 2 then year else year + 1) - 306 + (153 * mp + 2) / 5 := by
  obtain ⟨least, greatest⟩ := range
  have after := days_before_year_succ year
  unfold days_in_year at after
  interval_cases month
  all_goals
    simp only [days_before_month, List.range', Nat.sub_self, Nat.reduceSub, List.map_cons, List.map_nil, List.sum_cons, List.sum_nil,
    days_in_month]
    by_cases leap : Leap year
    · simp only [leap, if_true] at after ⊢
      split at shift <;> simp <;> omega
    · simp only [leap, if_false] at after ⊢
      split at shift <;> simp <;> omega
/-- The days of a month that starts a given number of days into the year from March. -/
private theorem month_length {year doy mp : Int} {month : Nat} (range : 1 ≤ month ∧ month ≤ 12)
    (shift : (month : Int) = mp + if mp < 10 then 3 else -9) (doyRange : 0 ≤ doy ∧ doy ≤ 366)
    (monthSame : mp = (5 * doy + 2) / 153) (february : mp = 11 → doy < days_in_year year) :
    doy - (153 * mp + 2) / 5 + 1 ≤ days_in_month year month := by
  obtain ⟨least, greatest⟩ := range
  unfold days_in_year at february
  by_cases leap : Leap year
  · rw [if_pos leap] at february
    interval_cases month
    all_goals
      simp only [days_in_month, if_pos leap]
      split at shift <;> omega
  · rw [if_neg leap] at february
    interval_cases month
    all_goals
      simp only [days_in_month, if_neg leap]
      split at shift <;> omega

/-- The days before the first of January after a number of years of an era. -/
private theorem days_before_era_year (era years : Int) : days_before_year (years + era * 400 + 1) =
    era * 146097 + (365 * years + years / 4 - years / 100 + years / 400) := by
  have passed : years + era * 400 + 1 - 1 = years + era * 400 := by omega
  have quarters : (years + era * 400) / 4 = years / 4 + era * 100 := by omega
  have hundreds : (years + era * 400) / 100 = years / 100 + era * 4 := by omega
  have eras : (years + era * 400) / 400 = years / 400 + era := by omega
  rw [days_before_year, passed, quarters, hundreds, eras]
  ring

/-- The date that the calendar arithmetic computes exists and has the given day count. -/
theorem civil_from_days_date {days : Nat} {year month day : Int}
    (found : civil_from_days days = .ok (year, month, day)) :
    ∃ date : Date, (year = date.year ∧ month = date.month ∧ day = date.day) ∧ date.day_number = days := by
  obtain ⟨era, doe, yoe, doy, mp, split⟩ := civil_from_days_split found
  have yoeRange := split.yoe_range
  have doyRange := split.doy_range
  have mpRange := split.mp_range
  have months := split.dated.month_range
  have dayLeast := split.dated.day_range.1
  obtain ⟨eraNonneg, ⟨doeLeast, doeGreatest⟩, whole, yoeSame, doySame, mpSame, daySame, monthSame, yearSame⟩ := split
  have beforeNext := next_year doeLeast doeGreatest yoeSame
  obtain ⟨monthNumber, rfl⟩ : ∃ number : Nat, month = number := ⟨month.toNat, by omega⟩
  obtain ⟨dayNumber, rfl⟩ : ∃ number : Nat, day = number := ⟨day.toNat, by omega⟩
  have monthRange : 1 ≤ monthNumber ∧ monthNumber ≤ 12 := by omega
  have marchYear : days_before_year (yoe + era * 400 + 1) = era * 146097 + (365 * yoe + yoe / 4 - yoe / 100) := by
    have young : yoe / 400 = 0 := Int.ediv_eq_zero_of_lt yoeRange.1 (by omega)
    rw [days_before_era_year, young, Int.add_zero]
  have february : mp = 11 → doy < days_in_year year := by
    intro last
    have winter : year = yoe + era * 400 + 1 := by
      rw [yearSame, monthSame, last]
      rfl
    have length := days_before_year_succ (yoe + era * 400 + 1)
    have after := days_before_era_year era (yoe + 1)
    rw [Int.add_right_comm yoe 1] at after
    rw [after, marchYear] at length
    rw [winter]
    clear yoeSame monthSame yearSame mpSame daySame
    omega
  have dayLe := month_length monthRange monthSame doyRange mpSame february
  rw [← daySame] at dayLe
  refine ⟨⟨year, monthNumber, dayNumber, monthRange, by omega, by exact_mod_cast dayLe⟩, ⟨rfl, rfl, rfl⟩, ?_⟩
  have shifted := march year monthRange monthSame mpRange
  have marchSame : (if monthNumber ≤ 2 then year else year + 1) = yoe + era * 400 + 1 := by
    by_cases winter : monthNumber ≤ 2
    · rw [if_pos winter, yearSame, if_pos (by exact_mod_cast winter)]
    · rw [if_neg winter, yearSame, if_neg (by exact_mod_cast winter), Int.add_zero]
  rw [marchSame, marchYear] at shifted
  have epoch : days_before_year 1970 = 719162 := by decide
  simp only [Date.day_number, epoch, daySame]
  clear yoeSame monthSame yearSame beforeNext february marchSame marchYear
  omega

/-! ### The order of timestamps -/

private theorem digit_value {char : Char} (digit : char.isDigit = true) :
    48 ≤ char.toNat ∧ char.toNat ≤ 57 := by
  unfold Char.isDigit at digit
  simp only [Bool.and_eq_true, decide_eq_true_eq, ge_iff_le, UInt32.le_iff_toNat_le] at digit
  exact digit

/-- A numeral with a smaller start has a smaller value, whatever digits follow. -/
private theorem reading_lt {left right : List Char} {start finish : Nat} (lt : start < finish)
    (same : left.length = right.length) (digits : ∀ char ∈ left, char.isDigit = true) :
    Nat.ofDigitChars 10 left start < Nat.ofDigitChars 10 right finish := by
  induction left generalizing right start finish with
  | nil =>
    obtain rfl := List.eq_nil_of_length_eq_zero same.symm
    exact lt
  | cons char rest inductionHypothesis =>
    cases right with
    | nil => cases same
    | cons char' rest' =>
      rw [Nat.ofDigitChars_cons, Nat.ofDigitChars_cons]
      have value := digit_value (digits char List.mem_cons_self)
      have zero : '0'.toNat = 48 := rfl
      exact inductionHypothesis (by omega) (Nat.succ.inj same) fun later member => digits later (List.mem_cons_of_mem _ member)

/-- Numerals of one length are ordered like their values. -/
private theorem lt_of_reading {left right : List Char} (start : Nat) (same : left.length = right.length)
    (leftDigits : ∀ char ∈ left, char.isDigit = true) (rightDigits : ∀ char ∈ right, char.isDigit = true)
    (lt : Nat.ofDigitChars 10 left start < Nat.ofDigitChars 10 right start) : left < right := by
  induction left generalizing right start with
  | nil =>
    obtain rfl := List.eq_nil_of_length_eq_zero same.symm
    exact absurd lt (lt_irrefl _)
  | cons char rest inductionHypothesis =>
    cases right with
    | nil => cases same
    | cons char' rest' =>
      rw [Nat.ofDigitChars_cons, Nat.ofDigitChars_cons] at lt
      have later : ∀ next ∈ rest, next.isDigit = true := fun next member => leftDigits next (List.mem_cons_of_mem _ member)
      have later' : ∀ next ∈ rest', next.isDigit = true := fun next member => rightDigits next (List.mem_cons_of_mem _ member)
      have value := digit_value (leftDigits char List.mem_cons_self)
      have value' := digit_value (rightDigits char' List.mem_cons_self)
      have zero : '0'.toNat = 48 := rfl
      rcases lt_trichotomy char char' with before | rfl | after
      · exact List.Lex.rel before
      · exact List.Lex.cons (inductionHypothesis _ (Nat.succ.inj same) later later' lt)
      · have greater : char'.toNat < char.toNat := after
        have reversed := reading_lt (show 10 * start + (char'.toNat - '0'.toNat) < 10 * start + (char.toNat - '0'.toNat) by omega)
          (Nat.succ.inj same.symm) later'
        exact absurd lt reversed.le.not_gt

private theorem append_lt_append {left right : List Char} (restLeft restRight : List Char) (lt : left < right)
    (same : left.length = right.length) : left ++ restLeft < right ++ restRight := by
  induction lt with
  | nil => cases same
  | rel before => exact List.Lex.rel before
  | cons _ inductionHypothesis => exact List.Lex.cons (inductionHypothesis (Nat.succ.inj same))

private theorem zero_padded_digits {width : Nat} {value : Int} (nonneg : 0 ≤ value) :
    ∀ char ∈ (zero_padded width value).toList, char.isDigit = true := by
  intro char member
  simp only [zero_padded, not_lt.mpr nonneg, ↓reduceIte, String.toList_ofList, List.nil_append, List.mem_append,
    List.mem_replicate] at member
  rcases member with ⟨_, rfl⟩ | digit
  · rfl
  · exact Nat.isDigit_of_mem_toDigits (by decide) (by decide) digit

private theorem zero_padded_lt {width : Nat} {left right : Int} (positive : 0 < width) (fitsLeft : Fits width left)
    (fitsRight : Fits width right) (lt : left < right) : (zero_padded width left).toList < (zero_padded width right).toList := by
  refine lt_of_reading 0 ((zero_padded_length positive fitsLeft).trans (zero_padded_length positive fitsRight).symm)
    (zero_padded_digits fitsLeft.1) (zero_padded_digits fitsRight.1) ?_
  rw [zero_padded_reading width fitsLeft.1, zero_padded_reading width fitsRight.1]
  exact Int.natAbs_lt_natAbs_of_nonneg_of_lt fitsLeft.1 lt

/-- One field of a timestamp decides, or leaves the decision to the fields after it. -/
private theorem field_lt {width : Nat} {left right : Int} {restLeft restRight : List Char} (positive : 0 < width)
    (fitsLeft : Fits width left) (fitsRight : Fits width right) (lt : left < right ∨ left = right ∧ restLeft < restRight) :
    (zero_padded width left).toList ++ restLeft < (zero_padded width right).toList ++ restRight := by
  rcases lt with before | ⟨rfl, rests⟩
  · exact append_lt_append _ _ (zero_padded_lt positive fitsLeft fitsRight before)
      ((zero_padded_length positive fitsLeft).trans (zero_padded_length positive fitsRight).symm)
  · exact List.append_left_lt rests

/-- Whole minutes before year 10000. -/
structure Minute (unix_seconds : Nat) : Prop where
  whole : 60 ∣ unix_seconds
  early : unix_seconds < YEAR_10000

theorem Minute.formatted {unix_seconds : Nat} (minute : Minute unix_seconds) :
    ∃ timestamp, format_window_timestamp unix_seconds = .ok timestamp :=
  format_window_timestamp_ok (lt_trans minute.early (by decide))

/-- The date of a whole minute is not after the date of a later one. -/
private theorem date_le {left right : Nat} {dateLeft dateRight : Date} (lt : left < right)
    (countLeft : dateLeft.day_number = (left / SECONDS_PER_DAY : Nat))
    (countRight : dateRight.day_number = (right / SECONDS_PER_DAY : Nat)) :
    dateLeft.Before dateRight ∨ dateLeft = dateRight ∧ left / SECONDS_PER_DAY = right / SECONDS_PER_DAY := by
  have days : left / SECONDS_PER_DAY ≤ right / SECONDS_PER_DAY := Nat.div_le_div_right lt.le
  rcases Nat.lt_or_eq_of_le days with before | same
  · exact .inl (Date.before_of_lt (by rw [countLeft, countRight]; exact_mod_cast before))
  · exact .inr ⟨Date.day_number_injective (by rw [countLeft, countRight, same]), same⟩

/-- Within a day, a later whole minute has a later hour, or the hour and a later minute. -/
private theorem clock_lt {left right : Nat} (wholeLeft : 60 ∣ left) (wholeRight : 60 ∣ right) (lt : left < right)
    (sameDay : left / SECONDS_PER_DAY = right / SECONDS_PER_DAY) :
    left % SECONDS_PER_DAY / SECONDS_PER_HOUR < right % SECONDS_PER_DAY / SECONDS_PER_HOUR ∨
      left % SECONDS_PER_DAY / SECONDS_PER_HOUR = right % SECONDS_PER_DAY / SECONDS_PER_HOUR ∧
        left % SECONDS_PER_DAY % SECONDS_PER_HOUR / SECONDS_PER_MINUTE <
          right % SECONDS_PER_DAY % SECONDS_PER_HOUR / SECONDS_PER_MINUTE := by
  unfold SECONDS_PER_DAY SECONDS_PER_HOUR SECONDS_PER_MINUTE at *
  omega

/-- Before year 10000, window names are ordered like their windows. -/
theorem format_window_timestamp_lt {left right : Nat} {textLeft textRight : String} (minuteLeft : Minute left)
    (minuteRight : Minute right) (lt : left < right) (formattedLeft : format_window_timestamp left = .ok textLeft)
    (formattedRight : format_window_timestamp right = .ok textRight) : textLeft < textRight := by
  obtain ⟨year, month, day, stamped⟩ := format_window_timestamp_stamped formattedLeft
  obtain ⟨year', month', day', stamped'⟩ := format_window_timestamp_stamped formattedRight
  obtain ⟨yearFits, monthFits, dayFits⟩ := stamped.fits minuteLeft.early
  obtain ⟨yearFits', monthFits', dayFits'⟩ := stamped'.fits minuteRight.early
  obtain ⟨date, ⟨rfl, rfl, rfl⟩, count⟩ := civil_from_days_date stamped.date
  obtain ⟨date', ⟨rfl, rfl, rfl⟩, count'⟩ := civil_from_days_date stamped'.date
  rw [String.lt_iff, stamped.text, stamped'.text]
  simp only [String.toList_append, List.append_assoc]
  have two : 0 < 2 := by decide
  refine field_lt (by decide) yearFits yearFits' ?_
  rcases date_le lt count count' with (years | ⟨sameYear, months | ⟨sameMonth, days⟩⟩) | ⟨rfl, sameDay⟩
  · exact .inl years
  · exact .inr ⟨sameYear, field_lt two monthFits monthFits' (.inl (by exact_mod_cast months))⟩
  · refine .inr ⟨sameYear, field_lt two monthFits monthFits' (.inr ⟨by exact_mod_cast sameMonth, ?_⟩)⟩
    exact field_lt two dayFits dayFits' (.inl (by exact_mod_cast days))
  · refine .inr ⟨rfl, field_lt two monthFits monthFits' (.inr ⟨rfl, field_lt two dayFits dayFits' (.inr ⟨rfl, ?_⟩)⟩)⟩
    refine List.append_left_lt (field_lt two (hour_fits left).1 (hour_fits right).1 ?_)
    rcases clock_lt minuteLeft.whole minuteRight.whole lt sameDay with hours | ⟨sameHour, minutes⟩
    · exact .inl (by exact_mod_cast hours)
    · exact .inr ⟨by exact_mod_cast sameHour,
        field_lt two (hour_fits left).2 (hour_fits right).2 (.inl (by exact_mod_cast minutes))⟩

private theorem timestamp_length {unix_seconds : Nat} {timestamp : String} (minute : Minute unix_seconds)
    (formatted : format_window_timestamp unix_seconds = .ok timestamp) : timestamp.toList.length = 14 := by
  obtain ⟨year, month, day, stamped⟩ := format_window_timestamp_stamped formatted
  obtain ⟨yearFits, monthFits, dayFits⟩ := stamped.fits minute.early
  have two : 0 < 2 := by decide
  rw [stamped.text]
  simp only [String.toList_append, List.length_append, zero_padded_length (by decide) yearFits,
    zero_padded_length two monthFits, zero_padded_length two dayFits, zero_padded_length two (hour_fits unix_seconds).1,
    zero_padded_length two (hour_fits unix_seconds).2]
  rfl

/-! ### Round files and windows -/

private theorem intercalate_concat {separator : List Char} {front : List (List Char)} {last : List Char} (nonempty : front ≠ []) :
    separator.intercalate (front ++ [last]) = separator.intercalate front ++ (separator ++ last) := by
  induction front with
  | nil => exact absurd rfl nonempty
  | cons first rest inductionHypothesis =>
    cases rest with
    | nil => simp [List.intercalate]
    | cons second others =>
      have tail := inductionHypothesis (List.cons_ne_nil _ _)
      simp only [List.intercalate, List.cons_append, List.intersperse_cons_cons, List.flatten_cons] at tail ⊢
      rw [tail]
      simp only [List.append_assoc]

/-- Files of one directory are ordered like their names. -/
private theorem join_lt_join {front : List String} {left right : String} (nonempty : front ≠ []) (lt : left < right) :
    join '/' (front ++ [left]) < join '/' (front ++ [right]) := by
  have mapped : front.map String.toList ≠ [] := fun empty => nonempty (List.map_eq_nil_iff.mp empty)
  rw [String.lt_iff, join, join, String.toList_ofList, String.toList_ofList, List.map_append, List.map_append,
    List.map_singleton, List.map_singleton, intercalate_concat mapped, intercalate_concat mapped]
  exact List.append_left_lt (List.append_left_lt lt)

/-- The file name of a round in the history of its cohort. -/
def round_name (timestamp : String) : String := "round-" ++ timestamp ++ ".json"

private theorem round_name_lt {left right : Nat} {textLeft textRight : String} (minuteLeft : Minute left)
    (minuteRight : Minute right) (lt : left < right) (formattedLeft : format_window_timestamp left = .ok textLeft)
    (formattedRight : format_window_timestamp right = .ok textRight) : round_name textLeft < round_name textRight := by
  have texts := format_window_timestamp_lt minuteLeft minuteRight lt formattedLeft formattedRight
  rw [String.lt_iff, round_name, round_name]
  simp only [String.toList_append, List.append_assoc]
  exact List.append_left_lt (append_lt_append _ _ texts
    ((timestamp_length minuteLeft formattedLeft).trans (timestamp_length minuteRight formattedRight).symm))

/-- No path lies below two windows of a cohort. -/
private theorem below_one_window {cohort : CohortName} {tree textLeft textRight : String} {first second path : Path}
    (firstParts : first.parts = window_parts tree cohort textLeft [])
    (secondParts : second.parts = window_parts tree cohort textRight []) (different : textLeft ≠ textRight) :
    ¬(first.below path = true ∧ second.below path = true) := by
  rintro ⟨belowFirst, belowSecond⟩
  have leads := List.prefix_of_prefix_length_le (below_iff.mp belowFirst).1 (below_iff.mp belowSecond).1
    (by simp [firstParts, secondParts, window_parts])
  have same := leads.eq_of_length (by simp [firstParts, secondParts, window_parts])
  rw [firstParts, secondParts] at same
  exact different (window_parts_injective same).2.2.1

/-- How two windows or rounds of a cohort, the first earlier, are stored. -/
structure InOrder (cohort : CohortName) (left right : Nat) (textLeft textRight : String) : Prop where
  names : textLeft < textRight
  history : ∀ pathsLeft pathsRight, round_paths cohort.name left = .ok pathsLeft → round_paths cohort.name right = .ok pathsRight →
    pathsLeft.1.raw < pathsRight.1.raw
  segments : ∀ path : Path,
    ¬((source_window cohort.name textLeft).below path = true ∧ (source_window cohort.name textRight).below path = true)
  measurements : ∀ path : Path,
    ¬((measurement_window cohort.name textLeft).below path = true ∧
      (measurement_window cohort.name textRight).below path = true)

theorem in_order {cohort : CohortName} {left right : Nat} {textLeft textRight : String} (minuteLeft : Minute left)
    (minuteRight : Minute right) (lt : left < right) (formattedLeft : format_window_timestamp left = .ok textLeft)
    (formattedRight : format_window_timestamp right = .ok textRight) : InOrder cohort left right textLeft textRight := by
  have names := format_window_timestamp_lt minuteLeft minuteRight lt formattedLeft formattedRight
  refine ⟨names, ?_, fun path => ?_, fun path => ?_⟩
  · intro pathsLeft pathsRight namedLeft namedRight
    obtain ⟨timestamp, formatted, parts, _⟩ := round_paths_parts namedLeft
    obtain ⟨timestamp', formatted', parts', _⟩ := round_paths_parts namedRight
    have files := round_name_lt minuteLeft minuteRight lt formatted formatted'
    rw [Path.raw, Path.raw, parts, parts', record_parts, record_parts, ← List.cons_append, ← List.cons_append]
    exact join_lt_join (List.cons_ne_nil _ _) files
  · exact below_one_window (window_path_parts cohorts_segment formattedLeft) (window_path_parts cohorts_segment formattedRight) names.ne
  · exact below_one_window (window_path_parts measurements_segment formattedLeft) (window_path_parts measurements_segment formattedRight) names.ne

/-! ### The history manifest of the dashboard -/

/-- A file of a cohort's directory, with its JSON value when it is readable. -/
structure HistoryFile (J : Type) where
  name : String
  payload : Option J

section Manifest
variable {J : Type}

def is_round_file (file : HistoryFile J) : Bool := ((strip_start "round-" file.name).bind (strip_end ".json")).isSome
def by_name (left right : HistoryFile J) : Bool := decide (left.name ≤ right.name)
def sorted_rounds (cohort_dir : List (HistoryFile J)) : List (HistoryFile J) := (cohort_dir.filter is_round_file).mergeSort by_name
def latest_rounds (rounds : List J) (max_rounds : Int) : List J :=
  if max_rounds > 0 then rounds.drop (rounds.length - max_rounds.toNat) else rounds
def build_rounds_manifest (cohort_dir : List (HistoryFile J)) (max_rounds : Int) : List J :=
  latest_rounds ((sorted_rounds cohort_dir).filterMap (·.payload)) max_rounds

/-- A file of the history is named for a round that ended at a whole minute. -/
def NamedFor (file : HistoryFile J) (round_end : Nat) : Prop :=
  Minute round_end ∧ ∃ timestamp, format_window_timestamp round_end = .ok timestamp ∧ file.name = round_name timestamp

private theorem named_rounds (files : List (HistoryFile J)) (named : ∀ file ∈ files, ∃ round_end, NamedFor file round_end) :
    ∃ history : List (Nat × HistoryFile J), history.map Prod.snd = files ∧ ∀ entry ∈ history, NamedFor entry.2 entry.1 := by
  induction files with
  | nil => exact ⟨[], rfl, fun entry member => absurd member List.not_mem_nil⟩
  | cons file rest inductionHypothesis =>
    obtain ⟨history, same, entries⟩ := inductionHypothesis fun later member => named later (List.mem_cons_of_mem _ member)
    obtain ⟨round_end, here⟩ := named file List.mem_cons_self
    exact ⟨(round_end, file) :: history, by rw [List.map_cons, same], List.forall_mem_cons.mpr ⟨here, entries⟩⟩

private theorem round_end_lt {left right : HistoryFile J} {leftEnd rightEnd : Nat} (namedLeft : NamedFor left leftEnd)
    (namedRight : NamedFor right rightEnd) (lt : left.name < right.name) : leftEnd < rightEnd := by
  obtain ⟨minuteLeft, textLeft, formattedLeft, nameLeft⟩ := namedLeft
  obtain ⟨minuteRight, textRight, formattedRight, nameRight⟩ := namedRight
  rcases lt_trichotomy leftEnd rightEnd with before | rfl | after
  · exact before
  · rw [formattedLeft] at formattedRight
    obtain rfl := Except.ok.inj formattedRight
    exact absurd lt (by rw [nameLeft, nameRight]; exact lt_irrefl _)
  · have reversed := round_name_lt minuteRight minuteLeft after formattedRight formattedLeft
    rw [← nameLeft, ← nameRight] at reversed
    exact absurd lt reversed.le.not_gt

private theorem by_name_trans (first second third : HistoryFile J) (le : by_name first second = true)
    (le' : by_name second third = true) : by_name first third = true :=
  decide_eq_true (le_trans (of_decide_eq_true le) (of_decide_eq_true le'))
private theorem by_name_total (first second : HistoryFile J) : (by_name first second || by_name second first) = true := by
  simpa [by_name] using le_total first.name second.name

private theorem sorted_by_name (files : List (HistoryFile J)) (distinct : (files.map (·.name)).Nodup) :
    (sorted_rounds files).Pairwise (·.name < ·.name) := by
  have ordered : (sorted_rounds files).Pairwise fun left right => by_name left right = true :=
    List.pairwise_mergeSort by_name_trans by_name_total _
  have names : ((sorted_rounds files).map (·.name)).Nodup :=
    ((List.mergeSort_perm _ _).map _).nodup_iff.mpr (distinct.sublist (List.filter_sublist.map _))
  refine (ordered.and (List.pairwise_map.mp names)).imp fun pair => lt_of_le_of_ne (of_decide_eq_true pair.1) pair.2

/-- The manifest lists the latest readable rounds, the earliest of them first. -/
structure Chronological (cohort_dir : List (HistoryFile J)) (history : List (Nat × HistoryFile J)) : Prop where
  files : (history.map Prod.snd).Perm (cohort_dir.filter is_round_file)
  named : ∀ entry ∈ history, NamedFor entry.2 entry.1
  ordered : history.Pairwise (·.1 < ·.1)
  manifest : ∀ max_rounds, build_rounds_manifest cohort_dir max_rounds =
    latest_rounds (history.filterMap (·.2.payload)) max_rounds

theorem manifest_chronological {cohort_dir : List (HistoryFile J)} (distinct : (cohort_dir.map (·.name)).Nodup)
    (named : ∀ file ∈ cohort_dir, is_round_file file = true → ∃ round_end, NamedFor file round_end) :
    ∃ history, Chronological cohort_dir history := by
  have perm : (sorted_rounds cohort_dir).Perm (cohort_dir.filter is_round_file) := List.mergeSort_perm _ _
  obtain ⟨history, same, entries⟩ := named_rounds (sorted_rounds cohort_dir) fun file member => by
    obtain ⟨present, isRound⟩ := List.mem_filter.mp (perm.mem_iff.mp member)
    exact named file present isRound
  refine ⟨history, same ▸ perm, entries, ?_, fun max_rounds => ?_⟩
  · have names := sorted_by_name cohort_dir distinct
    rw [← same, List.pairwise_map] at names
    exact names.imp_of_mem fun first second lt => round_end_lt (entries _ first) (entries _ second) lt
  · rw [build_rounds_manifest, ← same, List.filterMap_map]
    rfl

end Manifest

/-! ### ISO 8601 -/

/-- The instant that an ISO 8601 text in UTC denotes, in seconds from 1970-01-01T00:00:00Z. -/
def Denotes (text : String) (instant : Int) : Prop :=
  ∃ (date : Date) (hour minute second : Nat), 0 ≤ date.year ∧ date.year ≤ 9999 ∧ hour < 24 ∧ minute < 60 ∧ second < 60 ∧
    text = zero_padded 4 date.year ++ "-" ++ zero_padded 2 date.month ++ "-" ++ zero_padded 2 date.day ++ "T" ++
      zero_padded 2 hour ++ ":" ++ zero_padded 2 minute ++ ":" ++ zero_padded 2 second ++ "Z" ∧
    instant = date.day_number * SECONDS_PER_DAY + hour * SECONDS_PER_HOUR + minute * SECONDS_PER_MINUTE + second

private theorem fits_number {value : Nat} (small : value < 100) : Fits 2 value := ⟨by omega, by omega⟩

private theorem date_fits (date : Date) : Fits 2 date.month ∧ Fits 2 date.day := by
  have months := date.month_range
  have days := date.day_range
  have month_le : days_in_month date.year date.month ≤ 31 := by
    unfold days_in_month
    repeat' split
    all_goals decide
  exact ⟨fits_number (by omega), fits_number (by omega)⟩

/-- A text denotes one instant. -/
theorem Denotes.unique {text : String} {first second : Int} (denotes : Denotes text first) (denotes' : Denotes text second) :
    first = second := by
  obtain ⟨date, hour, minute, seconds, least, greatest, hours, minutes, secondsLt, shape, rfl⟩ := denotes
  obtain ⟨date', hour', minute', seconds', least', greatest', hours', minutes', secondsLt', shape', rfl⟩ := denotes'
  have same := congrArg String.toList (shape.symm.trans shape')
  simp only [String.toList_append, List.append_assoc] at same
  have two : 0 < 2 := by decide
  obtain ⟨years, afterYear⟩ := field_cancel (by decide) ⟨least, by omega⟩ ⟨least', by omega⟩ same
  obtain ⟨months, afterMonth⟩ := field_cancel two (date_fits date).1 (date_fits date').1 (List.append_cancel_left afterYear)
  obtain ⟨days, afterDay⟩ := field_cancel two (date_fits date).2 (date_fits date').2 (List.append_cancel_left afterMonth)
  obtain ⟨sameHour, afterHour⟩ := field_cancel two (fits_number (by omega)) (fits_number (by omega))
    (List.append_cancel_left afterDay)
  obtain ⟨sameMinute, afterMinute⟩ := field_cancel two (fits_number (by omega)) (fits_number (by omega))
    (List.append_cancel_left afterHour)
  obtain ⟨sameSecond, _⟩ := field_cancel two (fits_number (by omega)) (fits_number (by omega))
    (List.append_cancel_left afterMinute)
  obtain rfl : date = date' := Date.ext years (by exact_mod_cast months) (by exact_mod_cast days)
  rw [sameHour, sameMinute, sameSecond]

private theorem clock_sum {unix_seconds : Nat} (whole : 60 ∣ unix_seconds) :
    unix_seconds = unix_seconds / SECONDS_PER_DAY * SECONDS_PER_DAY +
      unix_seconds % SECONDS_PER_DAY / SECONDS_PER_HOUR * SECONDS_PER_HOUR +
      unix_seconds % SECONDS_PER_DAY % SECONDS_PER_HOUR / SECONDS_PER_MINUTE * SECONDS_PER_MINUTE := by
  unfold SECONDS_PER_DAY SECONDS_PER_HOUR SECONDS_PER_MINUTE
  omega

theorem iso8601_seconds_denotes {unix_seconds : Nat} (minute : Minute unix_seconds) :
    ∃ text, iso8601_seconds unix_seconds = .ok text ∧ Denotes text unix_seconds := by
  obtain ⟨timestamp, formatted⟩ := minute.formatted
  obtain ⟨year, month, day, stamped⟩ := format_window_timestamp_stamped formatted
  obtain ⟨yearFits, monthFits, dayFits⟩ := stamped.fits minute.early
  obtain ⟨date, ⟨rfl, rfl, rfl⟩, count⟩ := civil_from_days_date stamped.date
  have two : 0 < 2 := by decide
  have clock := hour_fits unix_seconds
  refine ⟨_, iso8601_seconds_ok formatted stamped.text (zero_padded_length (by decide) yearFits)
    (zero_padded_length two monthFits) (zero_padded_length two dayFits) (zero_padded_length two clock.1)
    (zero_padded_length two clock.2), date, unix_seconds % SECONDS_PER_DAY / SECONDS_PER_HOUR,
    unix_seconds % SECONDS_PER_DAY % SECONDS_PER_HOUR / SECONDS_PER_MINUTE, 0, yearFits.1, Int.lt_add_one_iff.mp yearFits.2, ?_, ?_, by decide, ?_, ?_⟩
  · unfold SECONDS_PER_DAY SECONDS_PER_HOUR
    omega
  · unfold SECONDS_PER_DAY SECONDS_PER_HOUR SECONDS_PER_MINUTE
    omega
  · have zero : zero_padded 2 ((0 : Nat) : Int) = "00" := by decide
    have finish : ":00Z" = ":" ++ "00" ++ "Z" := by decide
    rw [zero, finish]
    simp only [String.append_assoc]
  · have sum := clock_sum minute.whole
    rw [count, Nat.cast_zero, Int.add_zero]
    exact_mod_cast sum

/-! ### The calendar encoding -/

/-- The date that names the day of a Unix second: no other date has its day count, and computing it stays within 64 bits. -/
structure DateOf (unix_seconds : Nat) (date : Date) : Prop where
  computed : civil_from_days (unix_seconds / SECONDS_PER_DAY : Nat) = .ok (date.year, date.month, date.day)
  within : civil_from_days_i64 (unix_seconds / SECONDS_PER_DAY : Nat) = some (date.year, (date.month : Int), (date.day : Int))
  unique : ∀ other : Date, other.day_number = (unix_seconds / SECONDS_PER_DAY : Nat) ↔ other = date
  early : date.year ≤ 9999 ↔ unix_seconds < YEAR_10000

/-- The days before the first of January of year 10000 are those of the years up to 9999. -/
private theorem year_le_iff {date : Date} {days : Nat} (count : date.day_number = days) :
    date.year ≤ 9999 ↔ days < 2932897 := by
  obtain ⟨first, year, month, day⟩ : ∃ first : Date, first.year = 10000 ∧ first.month = 1 ∧ first.day = 1 :=
    ⟨⟨10000, 1, 1, by decide, by decide⟩, rfl, rfl, rfl⟩
  have number : first.day_number = 2932897 := by
    rw [Date.day_number, year, month, day]
    decide
  constructor
  · intro small
    have before : date.Before first := .inl (by omega)
    have fewer := Date.day_number_lt before
    omega
  · intro early
    have fewer : date.day_number < first.day_number := by omega
    rcases Date.before_of_lt fewer with years | ⟨_, months | ⟨_, days⟩⟩
    · omega
    · have range := date.month_range
      omega
    · have range := date.day_range
      omega

theorem date_of {unix_seconds : Nat} (bounded : unix_seconds < 2 ^ 64) : ∃ date, DateOf unix_seconds date := by
  have days : unix_seconds / SECONDS_PER_DAY < 281474976710656 := by
    unfold SECONDS_PER_DAY
    omega
  have small : ((unix_seconds / SECONDS_PER_DAY : Nat) : Int) + 719468 < 2 ^ 63 := by omega
  obtain ⟨⟨year, month, day⟩, found⟩ := civil_from_days_ok small
  have checked := civil_from_days_i64_ok days found
  obtain ⟨date, ⟨rfl, rfl, rfl⟩, count⟩ := civil_from_days_date found
  refine ⟨date, found, checked, fun other => ⟨fun same => Date.day_number_injective (same.trans count.symm), ?_⟩, ?_⟩
  · rintro rfl
    exact count
  · rw [year_le_iff count]
    unfold SECONDS_PER_DAY YEAR_10000
    omega

/-- Window timestamps encode the calendar: dates exist and are unique, no step overflows, names keep
    the order of their windows and keep them apart, and the ISO 8601 text denotes the same instant. -/
theorem timestamps_encode_calendar :
    (∀ unix_seconds < 2 ^ 64, ∃ date, DateOf unix_seconds date) ∧
    (∀ left right, Minute left → Minute right → ∃ textLeft textRight, format_window_timestamp left = .ok textLeft ∧
      format_window_timestamp right = .ok textRight ∧ (textLeft = textRight → left = right) ∧
      (left < right → ∀ cohort, InOrder cohort left right textLeft textRight)) ∧
    (∀ (J : Type) (cohort_dir : List (HistoryFile J)), (cohort_dir.map (·.name)).Nodup →
      (∀ file ∈ cohort_dir, is_round_file file = true → ∃ round_end, NamedFor file round_end) →
      ∃ history, Chronological cohort_dir history) ∧
    (∀ unix_seconds, Minute unix_seconds →
      ∃ text, iso8601_seconds unix_seconds = .ok text ∧ ∀ instant, Denotes text instant ↔ instant = unix_seconds) := by
  refine ⟨fun unix_seconds => date_of, ?_, fun J cohort_dir => manifest_chronological, ?_⟩
  · intro left right minuteLeft minuteRight
    obtain ⟨textLeft, formattedLeft⟩ := minuteLeft.formatted
    obtain ⟨textRight, formattedRight⟩ := minuteRight.formatted
    refine ⟨textLeft, textRight, formattedLeft, formattedRight, ?_, fun lt cohort => ?_⟩
    · rintro rfl
      exact format_window_timestamp_injective (Nat.mod_eq_zero_of_dvd minuteLeft.whole)
        (Nat.mod_eq_zero_of_dvd minuteRight.whole) minuteLeft.early minuteRight.early formattedLeft formattedRight
    · exact in_order minuteLeft minuteRight lt formattedLeft formattedRight
  · intro unix_seconds minute
    obtain ⟨text, formatted, denotes⟩ := iso8601_seconds_denotes minute
    refine ⟨text, formatted, fun instant => ⟨fun denotes' => denotes'.unique denotes, ?_⟩⟩
    rintro rfl
    exact denotes

/-! ### The turn of a century -/

/-- The rounds before and behind midnight, the later one listed first. -/
def centuryRounds : List (HistoryFile Nat) :=
  [⟨"round-20000101T0000Z.json", some 2⟩, ⟨"latest.json", some 2⟩, ⟨"round-19991231T2359Z.json", some 1⟩]

theorem midnight_minutes : Minute 946684740 ∧ Minute 946684800 := ⟨⟨by decide, by decide⟩, ⟨by decide, by decide⟩⟩

theorem midnight_formatted : format_window_timestamp 946684740 = .ok "19991231T2359Z" ∧
    format_window_timestamp 946684800 = .ok "20000101T0000Z" := by decide

theorem century_encoded :
    (∃ date : Date, DateOf 951782400 date ∧ (date.year, (date.month : Int), (date.day : Int)) = (2000, 2, 29)) ∧
    InOrder ⟨"prod", by decide⟩ 946684740 946684800 "19991231T2359Z" "20000101T0000Z" ∧
    (∃ history, Chronological centuryRounds history) ∧
    iso8601_seconds 946684740 = .ok "1999-12-31T23:59:00Z" ∧
      ∀ instant, Denotes "1999-12-31T23:59:00Z" instant ↔ instant = 946684740 := by
  obtain ⟨dates, windows, manifests, texts⟩ := timestamps_encode_calendar
  obtain ⟨before, behind⟩ := midnight_minutes
  obtain ⟨formattedBefore, formattedBehind⟩ := midnight_formatted
  refine ⟨?_, ?_, manifests Nat centuryRounds (by decide) ?_, ?_⟩
  · obtain ⟨date, of⟩ := dates 951782400 (by decide)
    have leap : civil_from_days (951782400 / SECONDS_PER_DAY : Nat) = .ok (2000, 2, 29) := by decide
    exact ⟨date, of, Except.ok.inj (of.computed.symm.trans leap)⟩
  · obtain ⟨textLeft, textRight, formattedLeft, formattedRight, _, ordered⟩ := windows _ _ before behind
    obtain rfl := Except.ok.inj (formattedLeft.symm.trans formattedBefore)
    obtain rfl := Except.ok.inj (formattedRight.symm.trans formattedBehind)
    exact ordered (by decide) _
  · intro file member isRound
    simp only [centuryRounds, List.mem_cons, List.not_mem_nil, or_false] at member
    rcases member with rfl | rfl | rfl
    · exact ⟨946684800, behind, _, formattedBehind, rfl⟩
    · exact absurd isRound (by decide)
    · exact ⟨946684740, before, _, formattedBefore, rfl⟩
  · obtain ⟨text, formatted, denotes⟩ := texts _ before
    have same : iso8601_seconds 946684740 = .ok "1999-12-31T23:59:00Z" := by decide
    obtain rfl := Except.ok.inj (formatted.symm.trans same)
    exact ⟨same, denotes⟩

end VectorSeam.Timestamps
