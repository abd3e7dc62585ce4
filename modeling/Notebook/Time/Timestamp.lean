import Notebook.Time.Date
import Notebook.Text.Decimal

/-!
# Timestamps

An instant in coordinated universal time with a resolution of one nanosecond.
Nanoseconds beyond those of a second are in a leap second behind it. A minute
that has a leap second has it at its end, but nothing keeps a timestamp from
having one behind any other second.

The printed form ends in `Z`; its fraction has the fewest of 0, 3, 6 or 9 digits
that are exact, and a year outside 0 to 9999 carries its sign. A leap second is
printed as the second after the one it is behind, which is 60 at the end of a
minute.
-/

namespace Notebook

/-- An instant in coordinated universal time. -/
@[ext]
structure Timestamp where
  date : Date
  hour : Fin 24
  minute : Fin 60
  second : Fin 60
  /-- Counted from the start of the second to the end of a leap second behind it. -/
  nanosecond : Fin 2000000000
deriving DecidableEq

namespace Timestamp

/-- Nanoseconds of a second. -/
def nanosecondsPerSecond : Nat := 1000000000

/-- Minutes of a day. -/
def minutesPerDay : Nat := 1440

/-- The instant at which clocks `offset` minutes ahead of universal time show
`reading`. Offsets stay below one day, so at most one day is carried; there is
no such instant if the carried day cannot be kept. -/
def atOffset? (reading : Timestamp) (offset : Int) : Option Timestamp :=
  let minutes : Int := reading.hour.val * 60 + reading.minute.val - offset
  let date? :=
    if minutes < 0 then reading.date.previous?
    else if minutes < minutesPerDay then some reading.date
    else reading.date.next?
  let minuteOfDay := (minutes % minutesPerDay).toNat
  date?.map fun date =>
    { reading with
      date
      hour := Fin.ofNat 24 (minuteOfDay / 60)
      minute := Fin.ofNat 60 (minuteOfDay % 60) }

/-- The same instant without what lies below one microsecond. -/
def toMicroseconds (time : Timestamp) : Timestamp :=
  { time with
    nanosecond := ⟨time.nanosecond.val - time.nanosecond.val % 1000, by
      have := time.nanosecond.isLt
      omega⟩ }

/-- The second that is printed. -/
def shownSecond (time : Timestamp) : Nat :=
  if time.nanosecond.val < nanosecondsPerSecond then time.second.val else time.second.val + 1

/-- The nanoseconds of the second that is printed. -/
def shownNanosecond (time : Timestamp) : Nat :=
  if time.nanosecond.val < nanosecondsPerSecond then time.nanosecond.val
  else time.nanosecond.val - nanosecondsPerSecond

/-- Years 0 to 9999 have four digits; others a sign and at least four. -/
def yearText (year : Int) : List Char :=
  if 0 ≤ year ∧ year ≤ 9999 then Decimal.padded 4 year.natAbs
  else (if year < 0 then '-' else '+') :: Decimal.padded 4 year.natAbs

/-- The shortest exact fraction in groups of three digits, nothing for zero. -/
def fractionText (nanosecond : Nat) : List Char :=
  if nanosecond = 0 then []
  else if nanosecond % 1000000 = 0 then '.' :: Decimal.padded 3 (nanosecond / 1000000)
  else if nanosecond % 1000 = 0 then '.' :: Decimal.padded 6 (nanosecond / 1000)
  else '.' :: Decimal.padded 9 nanosecond

/-- The printed form of a timestamp. -/
def chars (time : Timestamp) : List Char :=
  yearText time.date.year ++ '-' :: Decimal.padded 2 time.date.month ++
    '-' :: Decimal.padded 2 time.date.day ++
    'T' :: Decimal.padded 2 time.hour.val ++ ':' :: Decimal.padded 2 time.minute.val ++
    ':' :: Decimal.padded 2 time.shownSecond ++ fractionText time.shownNanosecond ++ ['Z']

/-- The printed form of a timestamp, as text. -/
def text (time : Timestamp) : String :=
  String.ofList time.chars

end Timestamp

end Notebook
