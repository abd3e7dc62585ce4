import Notebook.Sql.Statement

/-!
# Precision of stored timestamps

A server counts microseconds from the start of the year 2000, forwards and
backwards. Of a timestamp it keeps the whole microseconds of that count, so what
lies below is dropped toward the start, and a leap second is kept as the second
after it.
-/

namespace Notebook

namespace Timestamp

/-- The year at whose start the count is zero. -/
def countedFrom : Int := 2000

/-- Microseconds of a day without a leap second. -/
def microsecondsPerDay : Nat := 86400000000

/-- Nanoseconds since midnight. -/
def nanosecondOfDay (time : Timestamp) : Nat :=
  ((time.hour.val * 60 + time.minute.val) * 60 + time.second.val) * 1000000000 +
    time.nanosecond.val

/-- Microseconds since midnight that are kept: the begun one counts where the
count runs backwards. -/
def keptMicrosecondOfDay (time : Timestamp) : Nat :=
  if countedFrom ≤ time.date.year then time.nanosecondOfDay / 1000
  else (time.nanosecondOfDay + 999) / 1000

/-- The time that many microseconds after midnight. -/
def ofMicrosecondOfDay (date : Date) (count : Nat) : Timestamp where
  date
  hour := ⟨count / 3600000000 % 24, by omega⟩
  minute := ⟨count / 60000000 % 60, by omega⟩
  second := ⟨count / 1000000 % 60, by omega⟩
  nanosecond := ⟨count % 1000000 * 1000, by omega⟩

/-- The instant that a server keeps. Only the last second of the last day may be
carried out of the calendar; it stays as it is. -/
def stored (time : Timestamp) : Timestamp :=
  let count := time.keptMicrosecondOfDay
  if count < microsecondsPerDay then ofMicrosecondOfDay time.date count
  else
    match time.date.next? with
    | some date => ofMicrosecondOfDay date (count - microsecondsPerDay)
    | none => time

/-- Times of day with whole microseconds are kept as they are. -/
theorem stored_ofMicrosecondOfDay (date : Date) {count : Nat}
    (within : count < microsecondsPerDay) :
    (ofMicrosecondOfDay date count).stored = ofMicrosecondOfDay date count := by
  have kept : (ofMicrosecondOfDay date count).keptMicrosecondOfDay = count := by
    have whole : (ofMicrosecondOfDay date count).nanosecondOfDay = count * 1000 := by
      simp only [nanosecondOfDay, ofMicrosecondOfDay, microsecondsPerDay] at within ⊢
      omega
    unfold keptMicrosecondOfDay
    rw [whole]
    split <;> omega
  simp only [stored, kept, if_pos within]
  rfl

end Timestamp

/-- The value that a server keeps. -/
def Value.stored : Value → Value
  | .timestamp time => .timestamp time.stored
  | value => value

/-- The statement with its values as a server keeps them. -/
def Statement.stored (statement : Statement) : Statement :=
  { statement with params := statement.params.map Value.stored }

end Notebook
