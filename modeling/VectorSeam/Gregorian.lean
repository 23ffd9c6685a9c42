import Mathlib

/-!
The proleptic Gregorian calendar. A date carries the proof that its month and day exist.
Dates are counted in days from 1970-01-01: the count of the next date is one more, and
earlier dates have smaller counts, so a count belongs to one date.
-/

namespace VectorSeam.Gregorian

/-! ### Years and months -/

def Leap (year : Int) : Prop := 4 ∣ year ∧ (¬100 ∣ year ∨ 400 ∣ year)
instance (year : Int) : Decidable (Leap year) := inferInstanceAs (Decidable (_ ∧ _))

def days_in_year (year : Int) : Nat := if Leap year then 366 else 365
def days_in_month (year : Int) (month : Nat) : Nat :=
  match month with
  | 2 => if Leap year then 29 else 28
  | 4 | 6 | 9 | 11 => 30
  | _ => 31

/-- The days of a year before the first of a month. -/
def days_before_month (year : Int) (month : Nat) : Nat := ((List.range' 1 (month - 1)).map (days_in_month year)).sum
/-- The days from the first of January of year 1 to the first of January of another year. -/
def days_before_year (year : Int) : Int := 365 * (year - 1) + (year - 1) / 4 - (year - 1) / 100 + (year - 1) / 400

theorem days_in_month_pos (year : Int) (month : Nat) : 1 ≤ days_in_month year month := by
  unfold days_in_month
  repeat' split
  all_goals decide

theorem days_before_year_succ (year : Int) : days_before_year (year + 1) = days_before_year year + days_in_year year := by
  unfold days_before_year days_in_year
  by_cases leap : Leap year
  · rw [if_pos leap]
    obtain ⟨four, rule⟩ := leap
    omega
  · rw [if_neg leap]
    unfold Leap at leap
    omega

theorem days_before_year_lt {year later : Int} (lt : year < later) :
    days_before_year year + days_in_year year ≤ days_before_year later := by
  rw [← days_before_year_succ]
  unfold days_before_year
  omega

theorem days_before_month_succ {month : Nat} (year : Int) (positive : 1 ≤ month) :
    days_before_month year (month + 1) = days_before_month year month + days_in_month year month := by
  obtain ⟨count, rfl⟩ := Nat.exists_eq_add_of_le' positive
  simp only [days_before_month, Nat.add_sub_cancel, List.range'_1_concat, List.map_append, List.sum_append, List.map_cons,
    List.map_nil, List.sum_cons, List.sum_nil, Nat.add_zero, Nat.add_comm 1 count]

theorem days_before_month_lt {month later : Nat} (year : Int) (positive : 1 ≤ month) (lt : month < later) :
    days_before_month year month + days_in_month year month ≤ days_before_month year later := by
  induction later, lt using Nat.le_induction with
  | base => exact (days_before_month_succ year positive).ge
  | succ later le inductionHypothesis =>
    rw [days_before_month_succ year (by omega)]
    omega

/-- The months of a year add up to it. -/
theorem days_before_month_thirteen (year : Int) : days_before_month year 13 = days_in_year year := by
  simp only [days_before_month, days_in_year, List.range', List.map_cons, List.map_nil, List.sum_cons, List.sum_nil,
    days_in_month]
  split <;> rfl

/-! ### Dates -/

@[ext] structure Date where
  year : Int
  month : Nat
  day : Nat
  month_range : 1 ≤ month ∧ month ≤ 12
  day_range : 1 ≤ day ∧ day ≤ days_in_month year month

namespace Date

def epoch : Date := ⟨1970, 1, 1, by decide, by decide⟩

/-- The day after a date. -/
def next (date : Date) : Date :=
  if sameMonth : date.day < days_in_month date.year date.month then
    ⟨date.year, date.month, date.day + 1, date.month_range, Nat.le_add_left 1 _, sameMonth⟩
  else if sameYear : date.month < 12 then
    ⟨date.year, date.month + 1, 1, ⟨Nat.le_add_left 1 _, sameYear⟩, le_rfl, days_in_month_pos _ _⟩
  else ⟨date.year + 1, 1, 1, by decide, le_rfl, days_in_month_pos _ _⟩

/-- The number of a date, counted in days from 1970-01-01. -/
def day_number (date : Date) : Int :=
  days_before_year date.year - days_before_year 1970 + days_before_month date.year date.month + date.day - 1

def Before (first second : Date) : Prop :=
  first.year < second.year ∨
    first.year = second.year ∧ (first.month < second.month ∨ first.month = second.month ∧ first.day < second.day)

theorem day_number_epoch : epoch.day_number = 0 := by decide

theorem day_number_next (date : Date) : date.next.day_number = date.day_number + 1 := by
  obtain ⟨year, month, day, months, days⟩ := date
  unfold next
  split
  · simp only [day_number]
    omega
  · rename_i lastDay
    have last : day = days_in_month year month := le_antisymm days.2 (not_lt.mp lastDay)
    have ending := days_before_month_succ year months.1
    split
    · simp only [day_number, ending]
      omega
    · rename_i lastMonth
      obtain rfl : month = 12 := le_antisymm months.2 (not_lt.mp lastMonth)
      rw [days_before_month_thirteen] at ending
      have january : days_before_month (year + 1) 1 = 0 := rfl
      simp only [day_number, days_before_year_succ, january, ending]
      omega

/-- A day lies within its year. -/
theorem day_of_year_le (date : Date) : days_before_month date.year date.month + date.day ≤ days_in_year date.year := by
  have within := date.day_range.2
  have after := days_before_month_lt date.year date.month_range.1 (Nat.lt_succ_of_le date.month_range.2)
  rw [days_before_month_thirteen] at after
  omega

theorem day_number_lt {first second : Date} (before : first.Before second) : first.day_number < second.day_number := by
  have least := second.day_range.1
  unfold day_number
  rcases before with years | ⟨sameYear, months | ⟨sameMonth, days⟩⟩
  · have apart := days_before_year_lt years
    have within := first.day_of_year_le
    omega
  · have apart := days_before_month_lt first.year first.month_range.1 months
    have within := first.day_range.2
    rw [← sameYear]
    omega
  · rw [← sameYear, ← sameMonth]
    omega

theorem before_total (first second : Date) : first.Before second ∨ first = second ∨ second.Before first := by
  rcases lt_trichotomy first.year second.year with before | sameYear | after
  · exact .inl (.inl before)
  · rcases lt_trichotomy first.month second.month with before | sameMonth | after
    · exact .inl (.inr ⟨sameYear, .inl before⟩)
    · rcases lt_trichotomy first.day second.day with before | sameDay | after
      · exact .inl (.inr ⟨sameYear, .inr ⟨sameMonth, before⟩⟩)
      · exact .inr (.inl (Date.ext sameYear sameMonth sameDay))
      · exact .inr (.inr (.inr ⟨sameYear.symm, .inr ⟨sameMonth.symm, after⟩⟩))
    · exact .inr (.inr (.inr ⟨sameYear.symm, .inl after⟩))
  · exact .inr (.inr (.inl after))

theorem before_of_lt {first second : Date} (lt : first.day_number < second.day_number) : first.Before second := by
  rcases before_total first second with before | rfl | after
  · exact before
  · exact absurd lt (lt_irrefl _)
  · exact absurd lt (day_number_lt after).le.not_gt

theorem day_number_injective {first second : Date} (same : first.day_number = second.day_number) : first = second := by
  rcases before_total first second with before | equal | after
  · exact absurd same (day_number_lt before).ne
  · exact equal
  · exact absurd same (day_number_lt after).ne'

end Date

example : Date.day_number ⟨2026, 7, 8, by decide, by decide⟩ = 20642 := by decide

end VectorSeam.Gregorian
