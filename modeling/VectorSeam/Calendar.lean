import VectorSeam.Window

/-!
Window names determine their windows. Before year 10000 every field of a timestamp
has a fixed width, and the year, month and day determine the day count, because the
pieces that the calendar arithmetic splits a day count into can be read back.
-/

namespace VectorSeam.Calendar
open VectorSeam.Window

/-! ### Fixed-width numerals -/

/-- Numbers that a decimal field of the given width holds. -/
def Fits (width : Nat) (value : Int) : Prop := 0 ≤ value ∧ value < 10 ^ width

private theorem zero_padded_toList {width : Nat} {value : Int} (nonneg : 0 ≤ value) :
    (zero_padded width value).toList =
      List.replicate (width - (Nat.toDigits 10 value.natAbs).length) '0' ++ Nat.toDigits 10 value.natAbs := by
  simp [zero_padded, not_lt.mpr nonneg]

theorem zero_padded_length {width : Nat} {value : Int} (positive : 0 < width) (fits : Fits width value) :
    (zero_padded width value).toList.length = width := by
  have small : value.natAbs < 10 ^ width := by
    have bound : (value.natAbs : Int) < ((10 ^ width : Nat) : Int) := by
      rw [Int.natAbs_of_nonneg fits.1]
      push_cast
      exact fits.2
    exact Int.ofNat_lt.mp bound
  have short : (Nat.toDigits 10 value.natAbs).length ≤ width :=
    (Nat.length_toDigits_le_iff (by decide) positive).mpr small
  rw [zero_padded_toList fits.1]
  simp
  omega

theorem zero_padded_reading (width : Nat) {value : Int} (nonneg : 0 ≤ value) :
    Nat.ofDigitChars 10 (zero_padded width value).toList 0 = value.natAbs := by
  rw [zero_padded_toList nonneg, Nat.ofDigitChars_append, Nat.ofDigitChars_replicate_zero, Nat.mul_zero,
    Nat.ofDigitChars_ten_toDigits]

theorem zero_padded_injective {width : Nat} {left right : Int} (nonnegLeft : 0 ≤ left) (nonnegRight : 0 ≤ right)
    (same : (zero_padded width left).toList = (zero_padded width right).toList) : left = right := by
  have equal := zero_padded_reading width nonnegLeft
  rw [same, zero_padded_reading width nonnegRight] at equal
  omega

/-! ### Dates -/

/-- The date of a day count, by the era, the year and month of the era that starts in March, and the day. -/
structure Dated (days : Nat) (year month day era yoe mp : Int) : Prop where
  era_nonneg : 0 ≤ era
  yoe_range : 0 ≤ yoe ∧ yoe ≤ 399
  mp_range : 0 ≤ mp ∧ mp ≤ 11
  day_range : 1 ≤ day ∧ day ≤ 31
  month_eq : month = mp + if mp < 10 then 3 else -9
  year_eq : year = yoe + era * 400 + if month ≤ 2 then 1 else 0
  count : (days : Int) + 719468 = era * 146097 + (365 * yoe + yoe / 4 - yoe / 100) + ((153 * mp + 2) / 5 + day - 1)

section Era
variable {doe yoe : Int}

/-- The leap days counted within an era are never more than those that passed. -/
private theorem leap_days (least : 0 ≤ doe) (greatest : doe < 146097)
    (year : yoe = (doe - doe / 1460 + doe / 36524 - doe / 146096) / 365) :
    yoe / 4 ≤ doe / 1460 ∧ doe / 36524 - doe / 146096 ≤ yoe / 100 := by
  constructor
  · omega
  · have century : doe / 36524 = 0 ∨ doe / 36524 = 1 ∨ doe / 36524 = 2 ∨ doe / 36524 = 3 ∨ doe / 36524 = 4 := by omega
    rcases century with first | second | third | fourth | last <;> omega

private theorem yoe_range (least : 0 ≤ doe) (greatest : doe < 146097)
    (year : yoe = (doe - doe / 1460 + doe / 36524 - doe / 146096) / 365) : 0 ≤ yoe ∧ yoe ≤ 399 := by
  omega

private theorem doy_nonneg {leaps centuries eras : Int} (year : yoe = (doe - leaps + centuries - eras) / 365)
    (fewer : yoe / 4 ≤ leaps) (more : centuries - eras ≤ yoe / 100) : 0 ≤ doe - (365 * yoe + yoe / 4 - yoe / 100) := by
  omega

private theorem doy_le (least : 0 ≤ doe) (greatest : doe < 146097)
    (year : yoe = (doe - doe / 1460 + doe / 36524 - doe / 146096) / 365) :
    doe - (365 * yoe + yoe / 4 - yoe / 100) ≤ 366 := by
  omega

private theorem passed_nonneg (least : 0 ≤ doe) (greatest : doe < 146097) :
    0 ≤ doe - doe / 1460 + doe / 36524 - doe / 146096 := by
  omega

end Era

/-- The month of a day of the year that starts in March. -/
private theorem month_of_doy {doy mp : Int} (least : 0 ≤ doy) (greatest : doy ≤ 366) (month : mp = (5 * doy + 2) / 153) :
    (0 ≤ mp ∧ mp ≤ 11) ∧ 1 ≤ doy - (153 * mp + 2) / 5 + 1 ∧ doy - (153 * mp + 2) / 5 + 1 ≤ 31 := by
  omega

/-- What the calendar arithmetic computes on the way from a day count to a date. -/
structure Split (days : Nat) (year month day era doe yoe doy mp : Int) : Prop where
  era_nonneg : 0 ≤ era
  doe_range : 0 ≤ doe ∧ doe < 146097
  whole : (days : Int) + 719468 = era * 146097 + doe
  yoe_eq : yoe = (doe - doe / 1460 + doe / 36524 - doe / 146096) / 365
  doy_eq : doy = doe - (365 * yoe + yoe / 4 - yoe / 100)
  mp_eq : mp = (5 * doy + 2) / 153
  day_eq : day = doy - (153 * mp + 2) / 5 + 1
  month_eq : month = mp + if mp < 10 then 3 else -9
  year_eq : year = yoe + era * 400 + if month ≤ 2 then 1 else 0

section Split
variable {days : Nat} {year month day era doe yoe doy mp : Int}

theorem Split.yoe_range (split : Split days year month day era doe yoe doy mp) : 0 ≤ yoe ∧ yoe ≤ 399 :=
  Calendar.yoe_range split.doe_range.1 split.doe_range.2 split.yoe_eq

theorem Split.doy_range (split : Split days year month day era doe yoe doy mp) : 0 ≤ doy ∧ doy ≤ 366 := by
  obtain ⟨leaps, centuries⟩ := leap_days split.doe_range.1 split.doe_range.2 split.yoe_eq
  rw [split.doy_eq]
  exact ⟨doy_nonneg split.yoe_eq leaps centuries, doy_le split.doe_range.1 split.doe_range.2 split.yoe_eq⟩

theorem Split.mp_range (split : Split days year month day era doe yoe doy mp) : 0 ≤ mp ∧ mp ≤ 11 :=
  (month_of_doy split.doy_range.1 split.doy_range.2 split.mp_eq).1

theorem Split.dated (split : Split days year month day era doe yoe doy mp) : Dated days year month day era yoe mp := by
  have days31 := (month_of_doy split.doy_range.1 split.doy_range.2 split.mp_eq).2
  rw [← split.day_eq] at days31
  refine ⟨split.era_nonneg, split.yoe_range, split.mp_range, days31, split.month_eq, split.year_eq, ?_⟩
  rw [split.whole, split.day_eq, split.doy_eq]
  ring

end Split

theorem civil_from_days_split {days : Nat} {year month day : Int}
    (found : civil_from_days days = .ok (year, month, day)) :
    ∃ era doe yoe doy mp, Split days year month day era doe yoe doy mp := by
  unfold civil_from_days at found
  by_cases large : (2 : Int) ^ 63 ≤ days + 719468
  · rw [if_pos large] at found
    cases found
  rw [if_neg large] at found
  clear large
  obtain ⟨z, zSame⟩ : ∃ z : Int, z = days + 719468 := ⟨_, rfl⟩
  have nonneg : 0 ≤ z := by omega
  rw [← zSame] at found
  simp only [ge_iff_le, nonneg, ↓reduceIte, Int.tdiv_eq_ediv_of_nonneg nonneg] at found
  obtain ⟨doe, doeSame⟩ : ∃ doe : Int, doe = z - z / 146097 * 146097 := ⟨_, rfl⟩
  have least : 0 ≤ doe := by omega
  have greatest : doe < 146097 := by omega
  rw [← doeSame] at found
  simp only [Int.tdiv_eq_ediv_of_nonneg least] at found
  rw [Int.tdiv_eq_ediv_of_nonneg (passed_nonneg least greatest)] at found
  obtain ⟨yoe, yoeSame⟩ : ∃ yoe : Int, yoe = (doe - doe / 1460 + doe / 36524 - doe / 146096) / 365 := ⟨_, rfl⟩
  have yoeRange := yoe_range least greatest yoeSame
  rw [← yoeSame] at found
  simp only [Int.tdiv_eq_ediv_of_nonneg yoeRange.1] at found
  obtain ⟨leaps, centuries⟩ := leap_days least greatest yoeSame
  obtain ⟨doy, doySame⟩ : ∃ doy : Int, doy = doe - (365 * yoe + yoe / 4 - yoe / 100) := ⟨_, rfl⟩
  have doyNonneg : 0 ≤ doy := doySame ▸ doy_nonneg yoeSame leaps centuries
  clear leaps centuries
  rw [← doySame] at found
  have shifted : 0 ≤ 5 * doy + 2 := by omega
  rw [Int.tdiv_eq_ediv_of_nonneg shifted] at found
  obtain ⟨mp, mpSame⟩ : ∃ mp : Int, mp = (5 * doy + 2) / 153 := ⟨_, rfl⟩
  rw [← mpSame] at found
  have months : 0 ≤ 153 * mp + 2 := by omega
  rw [Int.tdiv_eq_ediv_of_nonneg months] at found
  simp only [Except.ok.injEq, Prod.mk.injEq] at found
  obtain ⟨rfl, rfl, rfl⟩ := found
  have era : 0 ≤ z / 146097 := by omega
  have whole : (days : Int) + 719468 = z / 146097 * 146097 + doe := by rw [← zSame, doeSame]; ring
  exact ⟨z / 146097, doe, yoe, doy, mp, era, ⟨least, greatest⟩, whole, yoeSame, doySame, mpSame, rfl, rfl, rfl⟩

theorem civil_from_days_dated {days : Nat} {year month day : Int}
    (found : civil_from_days days = .ok (year, month, day)) : ∃ era yoe mp, Dated days year month day era yoe mp := by
  obtain ⟨era, doe, yoe, doy, mp, split⟩ := civil_from_days_split found
  exact ⟨era, yoe, mp, split.dated⟩

private theorem era_unique {yoe era yoe' era' : Int} (range : 0 ≤ yoe ∧ yoe ≤ 399) (range' : 0 ≤ yoe' ∧ yoe' ≤ 399)
    (same : yoe + era * 400 = yoe' + era' * 400) : era = era' ∧ yoe = yoe' := by
  omega

/-- A date belongs to one day count. -/
theorem Dated.injective {left right : Nat} {year month day era yoe mp era' yoe' mp' : Int}
    (first : Dated left year month day era yoe mp) (second : Dated right year month day era' yoe' mp') : left = right := by
  obtain ⟨_, yoeRange, mpRange, _, monthSame, yearSame, count⟩ := first
  obtain ⟨_, yoeRange', mpRange', _, monthSame', yearSame', count'⟩ := second
  have months : mp = mp' := by
    rw [monthSame] at monthSame'
    split at monthSame' <;> split at monthSame' <;> omega
  have years : yoe + era * 400 = yoe' + era' * 400 := by
    rw [yearSame] at yearSame'
    exact add_right_cancel yearSame'
  obtain ⟨rfl, rfl⟩ := era_unique yoeRange yoeRange' years
  subst months
  rw [← count'] at count
  exact Int.ofNat_inj.mp (add_right_cancel count)

theorem Dated.month_range {days : Nat} {year month day era yoe mp : Int} (dated : Dated days year month day era yoe mp) :
    1 ≤ month ∧ month ≤ 12 := by
  obtain ⟨_, _, mpRange, _, monthSame, _, _⟩ := dated
  split at monthSame <;> omega

/-- The first second after year 9999. -/
def YEAR_10000 : Nat := 253402300800

/-- The number of days before year 10000 bounds the years of earlier days. -/
theorem Dated.year_range {days : Nat} {year month day era yoe mp : Int} (dated : Dated days year month day era yoe mp)
    (early : days < 2932897) : 0 ≤ year ∧ year ≤ 9999 := by
  have monthSmall := dated.month_range
  obtain ⟨eraNonneg, yoeRange, mpRange, dayRange, monthSame, yearSame, count⟩ := dated
  have eraSmall : era ≤ 24 := by omega
  by_cases winter : month ≤ 2
  · rw [if_pos winter] at yearSame
    have late : 10 ≤ mp := by
      split at monthSame <;> omega
    have before : yoe + era * 400 ≤ 9998 := by omega
    omega
  · rw [if_neg winter] at yearSame
    omega

/-! ### Timestamps -/

private theorem fits_small {value : Int} (nonneg : 0 ≤ value) (small : value < 100) : Fits 2 value := ⟨nonneg, by omega⟩

/-- A timestamp by its six fields. -/
structure Stamped (window_start : Nat) (timestamp : String) (year month day : Int) : Prop where
  date : civil_from_days (window_start / SECONDS_PER_DAY : Nat) = .ok (year, month, day)
  text : timestamp = zero_padded 4 year ++ zero_padded 2 month ++ zero_padded 2 day ++ "T" ++
    zero_padded 2 (window_start % SECONDS_PER_DAY / SECONDS_PER_HOUR : Nat) ++
    zero_padded 2 (window_start % SECONDS_PER_DAY % SECONDS_PER_HOUR / SECONDS_PER_MINUTE : Nat) ++ "Z"

theorem format_window_timestamp_stamped {window_start : Nat} {timestamp : String}
    (found : format_window_timestamp window_start = .ok timestamp) :
    ∃ year month day, Stamped window_start timestamp year month day := by
  rw [format_window_timestamp] at found
  by_cases large : 2 ^ 63 ≤ window_start / SECONDS_PER_DAY
  · rw [if_pos large] at found
    cases found
  rw [if_neg large] at found
  cases date : civil_from_days (window_start / SECONDS_PER_DAY : Nat) with
  | error error => rw [date] at found; cases found
  | ok fields =>
    obtain ⟨year, month, day⟩ := fields
    rw [date] at found
    simp only [Except.ok.injEq] at found
    exact ⟨year, month, day, date, found.symm⟩

/-- Fields of one width are read off the front. -/
theorem field_cancel {width : Nat} {left right : Int} {restLeft restRight : List Char} (positive : 0 < width)
    (fitsLeft : Fits width left) (fitsRight : Fits width right)
    (same : (zero_padded width left).toList ++ restLeft = (zero_padded width right).toList ++ restRight) :
    left = right ∧ restLeft = restRight := by
  obtain ⟨fields, rests⟩ := List.append_inj same
    ((zero_padded_length positive fitsLeft).trans (zero_padded_length positive fitsRight).symm)
  exact ⟨zero_padded_injective fitsLeft.1 fitsRight.1 fields, rests⟩

theorem Stamped.fits {window_start : Nat} {timestamp : String} {year month day : Int}
    (stamped : Stamped window_start timestamp year month day) (early : window_start < YEAR_10000) :
    Fits 4 year ∧ Fits 2 month ∧ Fits 2 day := by
  obtain ⟨era, yoe, mp, dated⟩ := civil_from_days_dated stamped.date
  have days : window_start / SECONDS_PER_DAY < 2932897 := by
    unfold YEAR_10000 at early
    unfold SECONDS_PER_DAY
    omega
  obtain ⟨yearLeast, yearGreatest⟩ := dated.year_range days
  obtain ⟨monthLeast, monthGreatest⟩ := dated.month_range
  obtain ⟨dayLeast, dayGreatest⟩ := dated.day_range
  exact ⟨⟨yearLeast, by omega⟩, fits_small (by omega) (by omega), fits_small (by omega) (by omega)⟩

theorem hour_fits (window_start : Nat) :
    Fits 2 (window_start % SECONDS_PER_DAY / SECONDS_PER_HOUR : Nat) ∧
      Fits 2 (window_start % SECONDS_PER_DAY % SECONDS_PER_HOUR / SECONDS_PER_MINUTE : Nat) := by
  unfold SECONDS_PER_DAY SECONDS_PER_HOUR SECONDS_PER_MINUTE
  constructor
  · exact fits_small (by omega) (by omega)
  · exact fits_small (by omega) (by omega)

private theorem minute_unique {left right : Nat} (minuteLeft : left % 60 = 0) (minuteRight : right % 60 = 0)
    (days : left / SECONDS_PER_DAY = right / SECONDS_PER_DAY)
    (hours : ((left % SECONDS_PER_DAY / SECONDS_PER_HOUR : Nat) : Int) = (right % SECONDS_PER_DAY / SECONDS_PER_HOUR : Nat))
    (minutes : ((left % SECONDS_PER_DAY % SECONDS_PER_HOUR / SECONDS_PER_MINUTE : Nat) : Int) =
      (right % SECONDS_PER_DAY % SECONDS_PER_HOUR / SECONDS_PER_MINUTE : Nat)) : left = right := by
  unfold SECONDS_PER_DAY SECONDS_PER_HOUR SECONDS_PER_MINUTE at *
  omega

/-- Before year 10000, whole minutes are told apart by their window names. -/
theorem format_window_timestamp_injective {left right : Nat} {timestamp : String} (minuteLeft : left % 60 = 0)
    (minuteRight : right % 60 = 0) (earlyLeft : left < YEAR_10000) (earlyRight : right < YEAR_10000)
    (foundLeft : format_window_timestamp left = .ok timestamp)
    (foundRight : format_window_timestamp right = .ok timestamp) : left = right := by
  obtain ⟨year, month, day, stamped⟩ := format_window_timestamp_stamped foundLeft
  obtain ⟨year', month', day', stamped'⟩ := format_window_timestamp_stamped foundRight
  obtain ⟨yearFits, monthFits, dayFits⟩ := stamped.fits earlyLeft
  obtain ⟨yearFits', monthFits', dayFits'⟩ := stamped'.fits earlyRight
  have same := congrArg String.toList (stamped.text.symm.trans stamped'.text)
  simp only [String.toList_append, List.append_assoc] at same
  have two : 0 < 2 := by decide
  obtain ⟨years, afterYear⟩ := field_cancel (by decide) yearFits yearFits' same
  obtain ⟨months, afterMonth⟩ := field_cancel two monthFits monthFits' afterYear
  obtain ⟨days, afterDay⟩ := field_cancel two dayFits dayFits' afterMonth
  subst years months days
  obtain ⟨hours, afterHour⟩ := field_cancel two (hour_fits left).1 (hour_fits right).1 (List.append_cancel_left afterDay)
  obtain ⟨minutes, _⟩ := field_cancel two (hour_fits left).2 (hour_fits right).2 afterHour
  obtain ⟨era, yoe, mp, dated⟩ := civil_from_days_dated stamped.date
  obtain ⟨era', yoe', mp', dated'⟩ := civil_from_days_dated stamped'.date
  exact minute_unique minuteLeft minuteRight (dated.injective dated') hours minutes

private theorem mem_zero_padded {width : Nat} {value : Int} {char : Char}
    (member : char ∈ (zero_padded width value).toList) : char.isDigit = true ∨ char = '-' := by
  unfold zero_padded at member
  simp only [String.toList_ofList, List.mem_append, List.mem_replicate] at member
  rcases member with (sign | ⟨_, rfl⟩) | digit
  · split at sign
    · exact .inr (List.mem_singleton.mp sign)
    · cases sign
  · exact .inl rfl
  · exact .inl (Nat.isDigit_of_mem_toDigits (by decide) (by decide) digit)

/-- A timestamp is made of digits, a possible sign and two letters. -/
theorem mem_timestamp {window_start : Nat} {timestamp : String}
    (found : format_window_timestamp window_start = .ok timestamp) {char : Char} (member : char ∈ timestamp.toList) :
    char.isDigit = true ∨ char = '-' ∨ char = 'T' ∨ char = 'Z' := by
  obtain ⟨year, month, day, stamped⟩ := format_window_timestamp_stamped found
  rw [stamped.text] at member
  have letters : ∀ letter, letter ∈ "T".toList ∨ letter ∈ "Z".toList → letter = 'T' ∨ letter = 'Z' := by simp
  simp only [String.toList_append, List.mem_append] at member
  have padded : ∀ {width : Nat} {value : Int}, char ∈ (zero_padded width value).toList →
      char.isDigit = true ∨ char = '-' ∨ char = 'T' ∨ char = 'Z' :=
    fun present => (mem_zero_padded present).imp_right .inl
  rcases member with (((((present | present) | present) | present) | present) | present) | present
  · exact padded present
  · exact padded present
  · exact padded present
  · exact .inr (.inr (letters char (.inl present)))
  · exact padded present
  · exact padded present
  · exact .inr (.inr (letters char (.inr present)))

end VectorSeam.Calendar
