import Mathlib.Data.List.Basic
import Mathlib.Data.List.Lex
import Mathlib.Data.Nat.Init
import SocialMigration.Calendar

/-!
# Days and instants

The days are numbered one after the other from the first, and the instants of moments are in the
order of their dates and times. Each of the two numberings puts parts one behind the other, years,
months or hours, so that an earlier part comes before a later one whatever lies in them.
-/

namespace SocialMigration

namespace Calendar

/-- Numbers that are put together from the start of a part and an offset in it are in the order of
the parts and, in one part, of the offsets. -/
theorem start_add_lt_iff {start size : Nat → Nat} {a b r s : Nat}
    (apart : a < b → start a + size a ≤ start b) (apart' : b < a → start b + size b ≤ start a)
    (inside : r < size a) (inside' : s < size b) :
    start a + r < start b + s ↔ a < b ∨ a = b ∧ r < s := by
  rcases Nat.lt_trichotomy a b with less | rfl | greater
  · have := apart less
    omega
  · omega
  · have := apart' greater
    omega

/-- Parts of one size are in the order in which they follow each other. -/
theorem mul_add_lt_iff {a b r s : Nat} (size : Nat) (inside : r < size) (inside' : s < size) :
    a * size + r < b * size + s ↔ a < b ∨ a = b ∧ r < s := by
  have apart : ∀ {a b : Nat}, a < b → a * size + size ≤ b * size := by
    intro a b less
    rw [← Nat.succ_mul]
    exact Nat.mul_le_mul_right size less
  exact @start_add_lt_iff (· * size) (fun _ => size) a b r s apart apart inside inside'

/-! ## Years and months -/

/-- The number of days of a year. -/
def daysInYear (year : Nat) : Nat :=
  if isLeap year then 366 else 365

variable {year month day earlier later : Nat}

theorem isLeap_iff : isLeap year = true ↔ year % 4 = 0 ∧ (year % 100 ≠ 0 ∨ year % 400 = 0) := by
  simp [isLeap]

theorem daysBeforeYear_succ (some : 1 ≤ year) :
    daysBeforeYear (year + 1) = daysBeforeYear year + daysInYear year := by
  rcases Nat.exists_eq_add_of_le' some with ⟨past, rfl⟩
  have before : daysBeforeYear (past + 1) =
      past * 365 + past / 4 - past / 100 + past / 400 := rfl
  have after : daysBeforeYear (past + 1 + 1) =
      (past + 1) * 365 + (past + 1) / 4 - (past + 1) / 100 + (past + 1) / 400 := rfl
  rw [before, after, daysInYear]
  by_cases leap : isLeap (past + 1) = true
  · rw [if_pos leap]
    rw [isLeap_iff] at leap
    omega
  · rw [if_neg leap]
    rw [isLeap_iff] at leap
    omega

theorem daysBeforeYear_apart (some : 1 ≤ earlier) (less : earlier < later) :
    daysBeforeYear earlier + daysInYear earlier ≤ daysBeforeYear later := by
  induction later, less using Nat.le_induction with
  | base => exact (daysBeforeYear_succ some).ge
  | succ later less ih =>
      rw [daysBeforeYear_succ (by omega)]
      exact ih.trans (Nat.le_add_right ..)

theorem daysBeforeMonth_succ (year : Nat) (some : 1 ≤ month) :
    daysBeforeMonth year (month + 1) = daysBeforeMonth year month + daysInMonth year month := by
  rcases Nat.exists_eq_add_of_le' some with ⟨past, rfl⟩
  simp [daysBeforeMonth, List.range_succ]

theorem daysBeforeMonth_apart (year : Nat) (some : 1 ≤ earlier) (less : earlier < later) :
    daysBeforeMonth year earlier + daysInMonth year earlier ≤ daysBeforeMonth year later := by
  induction later, less using Nat.le_induction with
  | base => exact (daysBeforeMonth_succ year some).ge
  | succ later less ih =>
      rw [daysBeforeMonth_succ year (by omega)]
      exact ih.trans (Nat.le_add_right ..)

theorem daysBeforeMonth_end (year : Nat) : daysBeforeMonth year 13 = daysInYear year := by
  cases leap : isLeap year <;>
    simp [daysBeforeMonth, daysInMonth, daysInYear, leap, List.range_succ]

/-! ## Dates -/

/-- A date of the calendar up to the last year of four digits. -/
structure IsDate (year month day : Nat) : Prop where
  year_pos : 1 ≤ year
  year_le : year ≤ 9999
  month_pos : 1 ≤ month
  month_le : month ≤ 12
  day_pos : 1 ≤ day
  day_le : day ≤ daysInMonth year month

instance (year month day : Nat) : Decidable (IsDate year month day) :=
  decidable_of_iff (1 ≤ year ∧ year ≤ 9999 ∧ 1 ≤ month ∧ month ≤ 12 ∧ 1 ≤ day ∧
      day ≤ daysInMonth year month)
    ⟨fun parts => ⟨parts.1, parts.2.1, parts.2.2.1, parts.2.2.2.1, parts.2.2.2.2.1,
        parts.2.2.2.2.2⟩,
      fun date => ⟨date.year_pos, date.year_le, date.month_pos, date.month_le, date.day_pos,
        date.day_le⟩⟩

/-- The day of a year that a date has is one of that year. -/
theorem IsDate.dayOfYear_le (date : IsDate year month day) :
    daysBeforeMonth year month + day ≤ daysInYear year := by
  have last := daysBeforeMonth_apart year date.month_pos (Nat.lt_succ_of_le date.month_le)
  rw [daysBeforeMonth_end] at last
  have := date.day_le
  omega

theorem IsDate.dayNumber_pos (date : IsDate year month day) : 0 < dayNumber year month day :=
  Nat.add_pos_right _ date.day_pos

/-- No date is beyond the last day of the last year. -/
theorem IsDate.dayNumber_le (date : IsDate year month day) :
    dayNumber year month day ≤ 3652059 := by
  have inside := date.dayOfYear_le
  have last := daysBeforeYear_apart date.year_pos (Nat.lt_succ_of_le date.year_le)
  have all : daysBeforeYear (Nat.succ 9999) = 3652059 := by decide
  rw [dayNumber]
  omega

/-- The date of the next day. -/
def tomorrow (year month day : Nat) : Nat × Nat × Nat :=
  if day < daysInMonth year month then (year, month, day + 1)
  else if month < 12 then (year, month + 1, 1)
  else (year + 1, 1, 1)

/-- Every day has the number after that of the day before. -/
theorem IsDate.dayNumber_tomorrow (date : IsDate year month day) :
    let (year', month', day') := tomorrow year month day
    dayNumber year' month' day' = dayNumber year month day + 1 := by
  have bound := date.day_le
  rw [tomorrow]
  by_cases more : day < daysInMonth year month
  · simp only [if_pos more, dayNumber]
    omega
  · by_cases months : month < 12
    · simp only [if_neg more, if_pos months, dayNumber, daysBeforeMonth_succ year date.month_pos]
      omega
    · obtain rfl : month = 12 := by have := date.month_le; omega
      have year' := daysBeforeMonth_succ year date.month_pos
      have january : daysBeforeMonth (year + 1) 1 = 0 := rfl
      simp only [if_neg more, if_neg months, dayNumber, daysBeforeYear_succ date.year_pos]
      rw [daysBeforeMonth_end] at year'
      omega

example : dayNumber 1 1 1 = 1 := by decide

/-- The days are numbered in the order of their dates. -/
theorem IsDate.dayNumber_lt_iff {year' month' day' : Nat} (date : IsDate year month day)
    (date' : IsDate year' month' day') :
    dayNumber year month day < dayNumber year' month' day' ↔
      year < year' ∨ year = year' ∧ (month < month' ∨ month = month' ∧ day < day') := by
  have inside := date.dayOfYear_le
  have inside' := date'.dayOfYear_le
  have some := date.day_pos
  have some' := date'.day_pos
  have years := @start_add_lt_iff daysBeforeYear daysInYear year year'
    (daysBeforeMonth year month + (day - 1)) (daysBeforeMonth year' month' + (day' - 1))
    (daysBeforeYear_apart date.year_pos) (daysBeforeYear_apart date'.year_pos)
    (by omega) (by omega)
  have counted : dayNumber year month day =
      daysBeforeYear year + (daysBeforeMonth year month + (day - 1)) + 1 := by
    rw [dayNumber]
    omega
  have counted' : dayNumber year' month' day' =
      daysBeforeYear year' + (daysBeforeMonth year' month' + (day' - 1)) + 1 := by
    rw [dayNumber]
    omega
  rw [counted, counted', Nat.add_lt_add_iff_right, years]
  apply or_congr_right
  apply and_congr_right
  rintro rfl
  have bound := date.day_le
  have bound' := date'.day_le
  rw [@start_add_lt_iff (daysBeforeMonth year) (daysInMonth year) month month' (day - 1) (day' - 1)
    (daysBeforeMonth_apart year date.month_pos) (daysBeforeMonth_apart year date'.month_pos)
    (by omega) (by omega)]
  omega

theorem IsDate.dayNumber_eq_iff {year' month' day' : Nat} (date : IsDate year month day)
    (date' : IsDate year' month' day') :
    dayNumber year month day = dayNumber year' month' day' ↔
      year = year' ∧ month = month' ∧ day = day' := by
  have before := date.dayNumber_lt_iff date'
  have after := date'.dayNumber_lt_iff date
  omega

end Calendar

/-! ## Moments -/

/-- A moment of the calendar. -/
structure Moment.IsValid (moment : Moment) : Prop
    extends Calendar.IsDate moment.year moment.month moment.day where
  hour_lt : moment.hour < 24
  minute_lt : moment.minute < 60
  second_lt : moment.second < 60
  microsecond_lt : moment.microsecond < 1000000

namespace Moment

instance (moment : Moment) : Decidable moment.IsValid :=
  decidable_of_iff (Calendar.IsDate moment.year moment.month moment.day ∧ moment.hour < 24 ∧
      moment.minute < 60 ∧ moment.second < 60 ∧ moment.microsecond < 1000000)
    ⟨fun parts => ⟨parts.1, parts.2.1, parts.2.2.1, parts.2.2.2.1, parts.2.2.2.2⟩,
      fun valid => ⟨valid.toIsDate, valid.hour_lt, valid.minute_lt, valid.second_lt,
        valid.microsecond_lt⟩⟩

/-- The date and the time of day of a moment, from the year to the microsecond. -/
def parts (moment : Moment) : List Nat :=
  [moment.year, moment.month, moment.day, moment.hour, moment.minute, moment.second,
    moment.microsecond]

/-- The microseconds of a day that have passed at a moment. -/
def timeOfDay (moment : Moment) : Nat :=
  ((moment.hour * 60 + moment.minute) * 60 + moment.second) * 1000000 + moment.microsecond

variable {moment earlier later : Moment}

theorem instant_eq (moment : Moment) :
    moment.instant = moment.dayNumber * Calendar.microsecondsPerDay + moment.timeOfDay :=
  Nat.add_assoc ..

theorem IsValid.timeOfDay_lt (valid : moment.IsValid) :
    moment.timeOfDay < Calendar.microsecondsPerDay := by
  have := valid.hour_lt
  have := valid.minute_lt
  have := valid.second_lt
  have := valid.microsecond_lt
  rw [timeOfDay, Calendar.microsecondsPerDay]
  omega

/-- Moments are in the order of their instants. -/
theorem IsValid.instant_lt_iff (valid : earlier.IsValid) (valid' : later.IsValid) :
    earlier.instant < later.instant ↔ earlier.parts < later.parts := by
  have minutes : earlier.hour * 60 + earlier.minute = later.hour * 60 + later.minute ↔
      earlier.hour = later.hour ∧ earlier.minute = later.minute := by
    have := valid.minute_lt
    have := valid'.minute_lt
    omega
  have seconds : (earlier.hour * 60 + earlier.minute) * 60 + earlier.second =
      (later.hour * 60 + later.minute) * 60 + later.second ↔
      (earlier.hour = later.hour ∧ earlier.minute = later.minute) ∧
        earlier.second = later.second := by
    have := valid.second_lt
    have := valid'.second_lt
    rw [← minutes]
    omega
  rw [instant_eq, instant_eq, Calendar.mul_add_lt_iff _ valid.timeOfDay_lt valid'.timeOfDay_lt,
    dayNumber, dayNumber, valid.dayNumber_lt_iff valid'.toIsDate,
    valid.dayNumber_eq_iff valid'.toIsDate, timeOfDay, timeOfDay,
    Calendar.mul_add_lt_iff _ valid.microsecond_lt valid'.microsecond_lt, seconds,
    Calendar.mul_add_lt_iff _ valid.second_lt valid'.second_lt, minutes,
    Calendar.mul_add_lt_iff _ valid.minute_lt valid'.minute_lt]
  simp only [parts, List.cons_lt_cons_iff, List.not_lt_nil, and_false, or_false, and_or_left,
    or_assoc, and_assoc]

end Moment

end SocialMigration
