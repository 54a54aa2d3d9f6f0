import Mathlib.Tactic.Common
import ListQuery.Calendar.Instant

/-! The days of the calendar on a line. Every day has a number, and the day after it has the next;
so an instant has a number of seconds, and going back by some minutes takes their seconds away, also
across the ends of days, months and years. No two days have one number, and no two instants one
number of seconds and of nanoseconds. -/

namespace ListQuery

namespace Calendar

/-! ### Years and months -/

/-- The days before the first of a year. -/
def daysBeforeYear (year : Int) : Int :=
  365 * year + ((year - 1) / 4 - (year - 1) / 100 + (year - 1) / 400)

/-- The length of a year. -/
def yearDays (year : Int) : Nat :=
  if isLeap year then 366 else 365

theorem daysBeforeYear_succ (year : Int) :
    daysBeforeYear (year + 1) = daysBeforeYear year + yearDays year := by
  unfold daysBeforeYear yearDays isLeap
  simp only [Bool.and_eq_true, Bool.or_eq_true, decide_eq_true_eq, bne_iff_ne]
  split <;> omega

theorem daysBeforeYear_mono {year later : Int} (before : year ≤ later) :
    daysBeforeYear year ≤ daysBeforeYear later := by
  unfold daysBeforeYear
  omega

/-- The days of a year before the first of a month. -/
def daysBeforeMonth (year : Int) : Nat → Nat
  | 0 | 1 => 0
  | month + 2 => daysBeforeMonth year (month + 1) + daysIn year (month + 1)

theorem daysBeforeMonth_succ (year : Int) {month : Nat} (positive : 1 ≤ month) :
    daysBeforeMonth year (month + 1) = daysBeforeMonth year month + daysIn year month := by
  obtain ⟨before, rfl⟩ := Nat.exists_eq_add_of_le' positive
  rfl

theorem daysBeforeMonth_mono (year : Int) {month later : Nat} (before : month ≤ later) :
    daysBeforeMonth year month ≤ daysBeforeMonth year later := by
  induction before with
  | refl => exact Nat.le_refl _
  | @step later before ih =>
    refine Nat.le_trans ih ?_
    cases later with
    | zero => exact Nat.le_refl _
    | succ later => exact Nat.le_add_right _ _

/-- The months make up the year. -/
theorem daysBeforeMonth_twelve (year : Int) : daysBeforeMonth year 12 + 31 = yearDays year := by
  simp [daysBeforeMonth, daysIn, yearDays]
  split <;> rfl

end Calendar

open Calendar

namespace Date

/-! ### Numbers of days -/

/-- The number of a day. -/
def number (d : Date) : Int :=
  daysBeforeYear d.year + daysBeforeMonth d.year d.month + d.day

theorem daysBeforeYear_lt_number (d : Date) : daysBeforeYear d.year < d.number := by
  have first := d.day_mem.1
  rw [number]
  omega

/-- The last day of a year stands right before the next year. -/
theorem number_le (d : Date) : d.number ≤ daysBeforeYear (d.year + 1) := by
  obtain ⟨positive, most⟩ := d.month_mem
  have last := d.day_mem.2
  have whole : daysBeforeMonth d.year d.month + daysIn d.year d.month ≤ yearDays d.year := by
    rw [← daysBeforeMonth_twelve]
    rcases Nat.eq_or_lt_of_le most with december | earlier
    · rw [december]
      exact Nat.le_refl _
    · rw [← daysBeforeMonth_succ d.year positive]
      exact Nat.le_add_right_of_le (daysBeforeMonth_mono d.year earlier)
  rw [number, daysBeforeYear_succ]
  omega

theorem number_lt_of_year {a b : Date} (before : a.year < b.year) : a.number < b.number := by
  have start := daysBeforeYear_mono (Int.add_one_le_of_lt before)
  have last := a.number_le
  have first := b.daysBeforeYear_lt_number
  omega

theorem number_lt_of_month {a b : Date} (same : a.year = b.year) (before : a.month < b.month) :
    a.number < b.number := by
  have start := daysBeforeMonth_mono a.year before
  rw [Nat.succ_eq_add_one, daysBeforeMonth_succ a.year a.month_mem.1] at start
  have last := a.day_mem.2
  have first := b.day_mem.1
  rw [number, number, ← same]
  omega

/-- A day is told by its number. -/
theorem eq_of_number {a b : Date} (same : a.number = b.number) : a = b := by
  have year : a.year = b.year := by
    rcases Int.lt_trichotomy a.year b.year with before | equal | after
    · exact absurd same (Int.ne_of_lt (number_lt_of_year before))
    · exact equal
    · exact absurd same (Int.ne_of_gt (number_lt_of_year after))
  have month : a.month = b.month := by
    rcases Nat.lt_trichotomy a.month b.month with before | equal | after
    · exact absurd same (Int.ne_of_lt (number_lt_of_month year before))
    · exact equal
    · exact absurd same (Int.ne_of_gt (number_lt_of_month year.symm after))
  have day : a.day = b.day := by
    rw [number, number, year, month] at same
    omega
  cases a
  cases b
  cases year
  cases month
  cases day
  rfl

theorem ofNumbers?_eq_some {year : Int} {month day : Nat}
    (year_mem : firstYear ≤ year ∧ year ≤ lastYear) (month_mem : 1 ≤ month ∧ month ≤ 12)
    (day_mem : 1 ≤ day ∧ day ≤ daysIn year month) :
    ofNumbers? year month day = some ⟨year, month, day, year_mem, month_mem, day_mem⟩ := by
  rw [ofNumbers?, dif_pos year_mem, dif_pos month_mem, dif_pos day_mem]

/-- The day after a day has the next number. -/
theorem exists_next {d : Date} (more : d.year < lastYear) :
    ∃ later, d.next? = some later ∧ later.number = d.number + 1 := by
  obtain ⟨positive, most⟩ := d.month_mem
  obtain ⟨first, last⟩ := d.day_mem
  have start := d.year_mem.1
  rw [next?]
  split
  · rename_i within
    refine ⟨_, ofNumbers?_eq_some d.year_mem d.month_mem ⟨by omega, within⟩, ?_⟩
    simp only [number]
    omega
  · rename_i ends
    split
    · rename_i within
      refine ⟨_, ofNumbers?_eq_some d.year_mem ⟨by omega, within⟩ ⟨by omega, daysIn_pos _ _⟩, ?_⟩
      simp only [number, daysBeforeMonth_succ d.year positive]
      omega
    · refine ⟨_, ofNumbers?_eq_some ⟨by omega, by omega⟩ ⟨by omega, by omega⟩
        ⟨by omega, daysIn_pos _ _⟩, ?_⟩
      have december : d.month = 12 := by omega
      have whole := daysBeforeMonth_twelve d.year
      have length : daysIn d.year 12 = 31 := rfl
      have january : daysBeforeMonth (d.year + 1) 1 = 0 := rfl
      rw [december] at ends last
      simp only [number, daysBeforeYear_succ, december, january]
      omega

/-- The day before a day has the number before. -/
theorem exists_previous {d : Date} (more : firstYear < d.year) :
    ∃ earlier, d.previous? = some earlier ∧ earlier.number = d.number - 1 := by
  obtain ⟨positive, most⟩ := d.month_mem
  obtain ⟨first, last⟩ := d.day_mem
  have stop := d.year_mem.2
  rw [previous?]
  split
  · rename_i within
    refine ⟨_, ofNumbers?_eq_some d.year_mem d.month_mem ⟨by omega, by omega⟩, ?_⟩
    simp only [number]
    omega
  · rename_i begins
    split
    · rename_i within
      refine ⟨_, ofNumbers?_eq_some d.year_mem ⟨by omega, by omega⟩
        ⟨daysIn_pos _ _, Nat.le_refl _⟩, ?_⟩
      have before := daysBeforeMonth_succ d.year (show 1 ≤ d.month - 1 by omega)
      rw [Nat.sub_add_cancel positive] at before
      simp only [number]
      omega
    · refine ⟨_, ofNumbers?_eq_some ⟨by omega, by omega⟩ ⟨by omega, by omega⟩
        ⟨by omega, Nat.le_refl 31⟩, ?_⟩
      have january : d.month = 1 := by omega
      have whole := daysBeforeMonth_twelve (d.year - 1)
      have years := daysBeforeYear_succ (d.year - 1)
      have none : daysBeforeMonth d.year 1 = 0 := rfl
      rw [Int.sub_add_cancel] at years
      simp only [number, january, none]
      omega

end Date

namespace Instant

/-! ### Numbers of seconds -/

/-- The number of the second that an instant is in. A leap second has the number of the second
before. -/
def seconds (i : Instant) : Int :=
  i.date.number * 86400 + i.second

/-- An instant is told by its second and its nanoseconds. -/
theorem eq_of_seconds {a b : Instant} (second : a.seconds = b.seconds) (nano : a.nano = b.nano) :
    a = b := by
  have low := a.second_lt
  have high := b.second_lt
  have date : a.date = b.date := by
    refine Date.eq_of_number ?_
    rw [seconds, seconds] at second
    omega
  have time : a.second = b.second := by
    rw [seconds, seconds, date] at second
    omega
  cases a
  cases b
  cases date
  cases time
  cases nano
  rfl

/-- Less than a day can be taken away, and what is left is so many minutes earlier. -/
theorem exists_minus {i : Instant} (first : firstYear < i.date.year) (last : i.date.year < lastYear)
    {minutes : Int} (low : -1440 < minutes) (high : minutes < 1440) :
    ∃ earlier, i.minus? minutes = some earlier ∧
      earlier.seconds = i.seconds - minutes * 60 ∧ earlier.nano = i.nano := by
  have bound := i.second_lt
  simp only [minus?]
  split
  · rw [dif_pos (by omega)]
    obtain ⟨date, found, number⟩ := Date.exists_previous first
    rw [found]
    refine ⟨_, rfl, ?_, rfl⟩
    simp only [seconds, number]
    omega
  · split
    · refine ⟨_, rfl, ?_, rfl⟩
      simp only [seconds]
      omega
    · rw [dif_pos (by omega)]
      obtain ⟨date, found, number⟩ := Date.exists_next last
      rw [found]
      refine ⟨_, rfl, ?_, rfl⟩
      simp only [seconds, number]
      omega

theorem minus?_zero {i : Instant} (first : firstYear < i.date.year)
    (last : i.date.year < lastYear) : i.minus? 0 = some i := by
  obtain ⟨same, found, second, nano⟩ := @exists_minus i first last 0 (by decide) (by decide)
  rw [Int.zero_mul, Int.sub_zero] at second
  rw [found, eq_of_seconds second nano]

end Instant

end ListQuery
