/-!
# Calendar dates

Dates of the proleptic Gregorian calendar, limited to the years the service can
keep. A `Date` always names a day that exists, so its successor and its
predecessor exist unless they lie outside those years.
-/

namespace Notebook

namespace Date

/-- The first year that can be kept. -/
def firstYear : Int := -262143

/-- The last year that can be kept. -/
def lastYear : Int := 262142

/-- Every fourth year is a leap year, except centuries not divisible by 400. -/
def isLeapYear (year : Int) : Bool :=
  year % 4 == 0 && (year % 100 != 0 || year % 400 == 0)

/-- The number of days of a month; no month has days outside 1 to 12. -/
def daysInMonth (year : Int) (month : Nat) : Nat :=
  match month with
  | 1 | 3 | 5 | 7 | 8 | 10 | 12 => 31
  | 4 | 6 | 9 | 11 => 30
  | 2 => if isLeapYear year then 29 else 28
  | _ => 0

/-- The year can be kept and the month has the day. -/
def Exists (year : Int) (month day : Nat) : Prop :=
  firstYear ≤ year ∧ year ≤ lastYear ∧ 1 ≤ day ∧ day ≤ daysInMonth year month

instance (year : Int) (month day : Nat) : Decidable (Exists year month day) :=
  inferInstanceAs (Decidable (_ ∧ _ ∧ _ ∧ _))

end Date

/-- A day of the calendar. -/
structure Date where
  year : Int
  month : Nat
  day : Nat
  day_exists : Date.Exists year month day
deriving DecidableEq

namespace Date

/-- The date with these numbers, if the calendar has it. -/
def of? (year : Int) (month day : Nat) : Option Date :=
  if day_exists : Exists year month day then some ⟨year, month, day, day_exists⟩ else none

/-- The following day: the next of the month, else the first of the next month,
else the first day of the next year. -/
def next? (date : Date) : Option Date :=
  of? date.year date.month (date.day + 1) <|>
    of? date.year (date.month + 1) 1 <|>
    of? (date.year + 1) 1 1

/-- The preceding day: the previous of the month, else the last of the previous
month, else the last day of the previous year. -/
def previous? (date : Date) : Option Date :=
  of? date.year date.month (date.day - 1) <|>
    of? date.year (date.month - 1) (daysInMonth date.year (date.month - 1)) <|>
    of? (date.year - 1) 12 31

/-- A date is found from its own numbers. -/
@[simp]
theorem of?_self (date : Date) : of? date.year date.month date.day = some date := by
  simp [of?, date.day_exists]

/-- A date that is found has the numbers it was looked up by. -/
theorem of?_eq_some_iff {year : Int} {month day : Nat} {date : Date} :
    of? year month day = some date ↔ date.year = year ∧ date.month = month ∧ date.day = day := by
  constructor
  · intro found
    unfold of? at found
    split at found
    · cases found
      exact ⟨rfl, rfl, rfl⟩
    · contradiction
  · rintro ⟨rfl, rfl, rfl⟩
    exact of?_self date

/-- Months are numbered from 1 to 12. -/
theorem month_bounds (date : Date) : 1 ≤ date.month ∧ date.month ≤ 12 := by
  obtain ⟨_, month, day, _, _, lower, upper⟩ := date
  simp only
  unfold daysInMonth at upper
  split at upper <;> omega

end Date

end Notebook
