import Notebook.Text.Blank
import Notebook.Time.Timestamp

/-!
# Reading timestamps

Two readers of timestamp text. `Timestamp.strict?` reads RFC 3339 exactly.
`Timestamp.lenient?` reads the same fields with blanks around numbers and
separators, one-digit fields, signed years of any length, the zone name `UTC`
and offsets whose colon is missing or repeated. Both read the same calendar and
clock fields, which `Timestamp.Fields.timestamp?` turns into an instant.

Readers take the characters that are left and give the value they found with
the characters behind it.
-/

namespace Notebook.Timestamp

/-- Calendar and clock numbers as written, with the offset in minutes. -/
structure Fields where
  year : Int
  month : Nat
  day : Nat
  hour : Nat
  minute : Nat
  second : Nat
  nanosecond : Nat
  offset : Int

/-- The instant that the fields name: the day exists, the clock shows a time of
day, and the offset stays below one day. A second 60 is a leap second behind the
last one of its minute. -/
def Fields.timestamp? (fields : Fields) : Option Timestamp := do
  let date ← Date.of? fields.year fields.month fields.day
  if within : fields.hour < 24 ∧ fields.minute < 60 ∧ fields.second < 61 ∧
      fields.nanosecond < nanosecondsPerSecond ∧ fields.offset.natAbs < minutesPerDay then
    let leap := if fields.second = 60 then nanosecondsPerSecond else 0
    atOffset?
      { date
        hour := ⟨fields.hour, within.1⟩
        minute := ⟨fields.minute, within.2.1⟩
        second := ⟨min fields.second 59, by omega⟩
        nanosecond := ⟨leap + fields.nanosecond, by
          have := within.2.2.2.1
          simp only [leap, nanosecondsPerSecond] at this ⊢
          split <;> omega⟩ }
      fields.offset
  else none

/-- Reads the longest run of at most `most` digits, which must have `least`. -/
def number (least most : Nat) (cs : List Char) : Option (Nat × List Char) :=
  let run := (cs.take most).takeWhile Char.isDigit
  if least ≤ run.length then some (Decimal.value run, cs.drop run.length) else none

/-- Reads exactly this character. -/
def exactly (c : Char) : List Char → Option (List Char)
  | first :: rest => if first = c then some rest else none
  | [] => none

/-- Reads the character between date and time of day. -/
def separator : List Char → Option (List Char)
  | first :: rest => if first = 'T' ∨ first = 't' ∨ first = ' ' then some rest else none
  | [] => none

/-- Reads an optional fraction of a second as nanoseconds. A point needs at
least one digit behind it; digits beyond the ninth are dropped. -/
def fraction : List Char → Option (Nat × List Char)
  | '.' :: rest =>
      let run := rest.takeWhile Char.isDigit
      let kept := run.take 9
      if run.isEmpty then none
      else some (Decimal.value kept * Nat.pow 10 (9 - kept.length), rest.drop run.length)
  | cs => some (0, cs)

/-- Reads a zone: `Z`, or a sign, two digits of hours, what `between` reads, and
two digits of minutes below 60. The offset is given in minutes. -/
def zone (between : List Char → Option (List Char)) : List Char → Option (Int × List Char)
  | [] => none
  | first :: rest =>
      if first = 'Z' ∨ first = 'z' then some (0, rest)
      else do
        let sign : Int ←
          if first = '+' then some 1
          else if first = '-' ∨ first = '\u2212' then some (-1)
          else none
        let (hours, rest) ← number 2 2 rest
        let rest ← between rest
        let (minutes, rest) ← number 2 2 rest
        if minutes < 60 then some (sign * (hours * 60 + minutes : Nat), rest) else none

/-- The fields of an RFC 3339 timestamp, which takes up the whole text. -/
def strictFields? (cs : List Char) : Option Fields := do
  let (year, cs) ← number 4 4 cs
  let cs ← exactly '-' cs
  let (month, cs) ← number 2 2 cs
  let cs ← exactly '-' cs
  let (day, cs) ← number 2 2 cs
  let cs ← separator cs
  let (hour, cs) ← number 2 2 cs
  let cs ← exactly ':' cs
  let (minute, cs) ← number 2 2 cs
  let cs ← exactly ':' cs
  let (second, cs) ← number 2 2 cs
  let (nanosecond, cs) ← fraction cs
  let (offset, cs) ← zone (exactly ':') cs
  if cs.isEmpty then
    some { year, month, day, hour, minute, second, nanosecond, offset }
  else none

/-- Reads RFC 3339 text and nothing else. -/
def strict? (text : String) : Option Timestamp :=
  (strictFields? text.toList).bind Fields.timestamp?

/-- Reads a number of one or two digits behind optional blanks. -/
def spacedNumber (cs : List Char) : Option (Nat × List Char) :=
  number 1 2 (Text.trimStart cs)

/-- Reads this character behind optional blanks. -/
def spacedExactly (c : Char) (cs : List Char) : Option (List Char) :=
  exactly c (Text.trimStart cs)

/-- Reads a year behind optional blanks: any number of digits behind a sign, up
to four without one. -/
def spacedYear (cs : List Char) : Option (Int × List Char) :=
  match Text.trimStart cs with
  | '-' :: rest => (number 1 rest.length rest).map fun (year, rest) => (-(year : Int), rest)
  | '+' :: rest => (number 1 rest.length rest).map fun (year, rest) => ((year : Int), rest)
  | rest => (number 1 4 rest).map fun (year, rest) => ((year : Int), rest)

/-- Reads a zone behind optional blanks: the name `UTC` in any case, or an
offset with any run of colons and blanks between hours and minutes. -/
def spacedZone (cs : List Char) : Option (Int × List Char) :=
  let cs := Text.trimStart cs
  if (cs.take 3).map Char.toUpper = ['U', 'T', 'C'] then some (0, cs.drop 3)
  else zone (fun cs => some (cs.dropWhile fun c => c = ':' || Text.isBlank c)) cs

/-- The fields of a leniently written timestamp, which takes up the whole text
but for blanks at its end. -/
def lenientFields? (cs : List Char) : Option Fields := do
  let (year, cs) ← spacedYear cs
  let cs ← spacedExactly '-' cs
  let (month, cs) ← spacedNumber cs
  let cs ← spacedExactly '-' cs
  let (day, cs) ← spacedNumber cs
  let cs ← separator cs
  let (hour, cs) ← spacedNumber cs
  let cs ← spacedExactly ':' cs
  let (minute, cs) ← spacedNumber cs
  let cs ← spacedExactly ':' cs
  let (second, cs) ← spacedNumber cs
  let (nanosecond, cs) ← fraction cs
  let (offset, cs) ← spacedZone cs
  if (Text.trimStart cs).isEmpty then
    some { year, month, day, hour, minute, second, nanosecond, offset }
  else none

/-- Reads a leniently written timestamp. -/
def lenient? (text : String) : Option Timestamp :=
  (lenientFields? text.toList).bind Fields.timestamp?

end Notebook.Timestamp
