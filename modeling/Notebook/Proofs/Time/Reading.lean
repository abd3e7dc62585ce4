import Notebook.Proofs.Text.Blank
import Notebook.Proofs.Text.Decimal
import Notebook.Time.Reading

/-!
# Printed timestamps read back

Each part of the printed form is read by its own reader, which stops where the
next part begins: numbers at their width or at a separator, the fraction at the
`Z`.

What is read is the timestamp with its leap second settled (`lenient?_text`). A
leap second at the end of a minute stays as it is. Any other is printed as the
ordinary second after it, and read as that. So a timestamp is given back exactly
if its leap second, if it is in one, is at the end of a minute.
-/

namespace Notebook.Date

/-- No month has more than 31 days. -/
theorem day_le (date : Date) : date.day ≤ 31 := by
  obtain ⟨_, month, day, _, _, _, upper⟩ := date
  refine Nat.le_trans upper ?_
  unfold daysInMonth
  split <;> (try split) <;> decide

end Notebook.Date

namespace Notebook.Timestamp

/-- A run of digits is read up to the most digits wanted, or up to what is no digit. -/
theorem number_append {least most : Nat} {run rest : List Char}
    (digitsOnly : ∀ c ∈ run, c.isDigit = true) (enough : least ≤ run.length)
    (within : run.length ≤ most)
    (ends : run.length = most ∨ ∀ c ∈ rest.head?, c.isDigit = false) :
    number least most (run ++ rest) = some (Decimal.value run, rest) := by
  have taken : ((run ++ rest).take most).takeWhile Char.isDigit = run := by
    rw [List.take_append, List.take_of_length_le within]
    apply Decimal.takeWhile_isDigit_append digitsOnly
    rcases ends with full | apart
    · simp [full]
    · intro c member
      rw [List.head?_take] at member
      split at member
      · cases member
      · exact apart c member
  simp only [number, taken, enough, if_true, List.drop_left]

/-- A number filled up to the most digits wanted is read whatever follows it. -/
theorem number_padded {least width n : Nat} (positive : 0 < width) (enough : least ≤ width)
    (fits : n < Nat.pow 10 width) (rest : List Char) :
    number least width (Decimal.padded width n ++ rest) = some (n, rest) := by
  have full := Decimal.length_padded positive fits
  rw [number_append (fun c member => Decimal.isDigit_of_mem_padded member) (by omega)
    (by omega) (.inl full), Decimal.value_padded]

/-- A filled up number starts with a digit. -/
theorem head?_padded_append {width n : Nat} (positive : 0 < width) (rest : List Char) :
    ∃ c ∈ (Decimal.padded width n ++ rest).head?, c.isDigit = true := by
  have long := Decimal.le_length_padded width n
  have digitsOnly : ∀ c ∈ Decimal.padded width n, c.isDigit = true :=
    fun c member => Decimal.isDigit_of_mem_padded member
  cases same : Decimal.padded width n with
  | nil =>
      rw [same, List.length_nil] at long
      omega
  | cons c more => exact ⟨c, rfl, digitsOnly c (by simp [same])⟩

/-- There is no blank in front of a filled up number. -/
theorem trimStart_padded_append {width n : Nat} (positive : 0 < width) (rest : List Char) :
    Text.trimStart (Decimal.padded width n ++ rest) = Decimal.padded width n ++ rest := by
  obtain ⟨first, starts, digit⟩ := head?_padded_append (n := n) positive rest
  apply Text.trimStart_eq_self
  intro c member
  rw [Option.mem_unique member starts]
  exact Text.isBlank_of_isDigit digit

/-- A printed month, day, hour, minute or second is read back. -/
theorem spacedNumber_padded {n : Nat} (fits : n < 100) (rest : List Char) :
    spacedNumber (Decimal.padded 2 n ++ rest) = some (n, rest) := by
  rw [spacedNumber, trimStart_padded_append (by decide)]
  exact number_padded (by decide) (by decide) fits rest

/-- A separator that is no blank is read in its place. -/
theorem spacedExactly_cons {c : Char} (visible : Text.isBlank c = false) (rest : List Char) :
    spacedExactly c (c :: rest) = some rest := by
  rw [spacedExactly, Text.trimStart_cons visible]
  simp [exactly]

/-- The digits of a year behind its sign are read up to the hyphen behind them. -/
theorem number_signed (n : Nat) (rest : List Char) :
    number 1 (Decimal.padded 4 n ++ '-' :: rest).length (Decimal.padded 4 n ++ '-' :: rest) =
      some (n, '-' :: rest) := by
  have long := Decimal.le_length_padded 4 n
  rw [number_append (fun c member => Decimal.isDigit_of_mem_padded member) (by omega) (by simp)
    (.inr (by simp)), Decimal.value_padded]

/-- A printed year is read back up to the hyphen behind it, whatever its sign. -/
theorem spacedYear_yearText (year : Int) (rest : List Char) :
    spacedYear (yearText year ++ '-' :: rest) = some (year, '-' :: rest) := by
  unfold yearText
  split
  case isTrue plain =>
    have value : ((year.natAbs : Nat) : Int) = year := by omega
    obtain ⟨c, starts, digit⟩ :
        ∃ c ∈ (Decimal.padded 4 year.natAbs ++ '-' :: rest).head?, c.isDigit = true :=
      head?_padded_append (by decide) ('-' :: rest)
    rw [spacedYear, trimStart_padded_append (by decide)]
    -- The first character decides on the sign, and here it is a digit.
    split
    case h_1 same =>
      rw [same] at starts
      cases starts
      cases digit
    case h_2 same =>
      rw [same] at starts
      cases starts
      cases digit
    case h_3 =>
      have fits : year.natAbs < Nat.pow 10 4 := by
        rw [Nat.pow_eq]
        omega
      rw [number_padded (by decide) (by decide) fits]
      simp [value]
  case isFalse =>
    by_cases negative : year < 0
    · have value : -((year.natAbs : Nat) : Int) = year := by omega
      have minus := Text.trimStart_cons (c := '-') (by decide)
      simp only [if_pos negative, List.cons_append, spacedYear, minus, number_signed,
        Option.map_some, value]
    · have value : ((year.natAbs : Nat) : Int) = year := by omega
      have plus := Text.trimStart_cons (c := '+') (by decide)
      simp only [if_neg negative, List.cons_append, spacedYear, plus, number_signed,
        Option.map_some, value]

/-- A fraction of up to nine digits is read as nanoseconds. -/
theorem fraction_padded {width n : Nat} (positive : 0 < width) (most : width ≤ 9)
    (fits : n < Nat.pow 10 width) (rest : List Char) :
    fraction ('.' :: Decimal.padded width n ++ 'Z' :: rest) =
      some (n * Nat.pow 10 (9 - width), 'Z' :: rest) := by
  have full := Decimal.length_padded positive fits
  have run : (Decimal.padded width n ++ 'Z' :: rest).takeWhile Char.isDigit =
      Decimal.padded width n :=
    Decimal.takeWhile_isDigit_append (fun c member => Decimal.isDigit_of_mem_padded member)
      (by simp)
  have kept : (Decimal.padded width n).take 9 = Decimal.padded width n :=
    List.take_of_length_le (by omega)
  have filled : (Decimal.padded width n).isEmpty = false := by
    rw [List.isEmpty_eq_false_iff, ← List.length_pos_iff]
    omega
  simp [fraction, run, kept, filled, full, Decimal.value_padded]

/-- A printed fraction is read back, also where nothing is printed. -/
theorem fraction_fractionText {nanosecond : Nat} (within : nanosecond < 1000000000)
    (rest : List Char) :
    fraction (fractionText nanosecond ++ 'Z' :: rest) = some (nanosecond, 'Z' :: rest) := by
  unfold fractionText
  split
  case isTrue none => rw [none]; rfl
  case isFalse =>
    split
    case isTrue millis =>
      have fits : nanosecond / 1000000 < Nat.pow 10 3 := by
        rw [Nat.pow_eq]
        omega
      rw [fraction_padded (by decide) (by decide) fits]
      simp only [Nat.pow_eq, Option.some.injEq, Prod.mk.injEq, and_true]
      omega
    case isFalse =>
      split
      case isTrue micros =>
        have fits : nanosecond / 1000 < Nat.pow 10 6 := by
          rw [Nat.pow_eq]
          omega
        rw [fraction_padded (by decide) (by decide) fits]
        simp only [Nat.pow_eq, Option.some.injEq, Prod.mk.injEq, and_true]
        omega
      case isFalse =>
        have fits : nanosecond < Nat.pow 10 9 := within
        rw [fraction_padded (by decide) (by decide) fits]
        simp

/-! ### Leap seconds -/

/-- If the timestamp is in a leap second, this is at the end of a minute. -/
def LeapsAtMinuteEnd (time : Timestamp) : Prop :=
  nanosecondsPerSecond ≤ time.nanosecond.val → time.second.val = 59

instance (time : Timestamp) : Decidable time.LeapsAtMinuteEnd :=
  inferInstanceAs (Decidable (_ → _))

/-- The timestamp itself, or the ordinary second after it if it is in a leap second that is not
at the end of a minute. -/
def settled (time : Timestamp) : Timestamp :=
  if stray : nanosecondsPerSecond ≤ time.nanosecond.val ∧ time.second.val < 59 then
    { time with
      second := ⟨time.second.val + 1, Nat.succ_lt_succ stray.2⟩
      nanosecond := ⟨time.nanosecond.val - nanosecondsPerSecond,
        Nat.lt_of_le_of_lt (Nat.sub_le _ _) time.nanosecond.isLt⟩ }
  else time

/-- Where leap seconds are at the ends of minutes, there is nothing to settle. -/
theorem settled_eq_self_iff {time : Timestamp} : time.settled = time ↔ time.LeapsAtMinuteEnd := by
  have second := time.second.isLt
  unfold settled LeapsAtMinuteEnd
  split
  case isTrue stray =>
    constructor
    · intro same
      have moved := congrArg (fun time => time.second.val) same
      exact absurd moved (Nat.succ_ne_self _)
    · intro leaps
      have last := leaps stray.1
      omega
  case isFalse apart =>
    refine ⟨fun _ leap => ?_, fun _ => rfl⟩
    omega

/-- Half a second into a leap second in the middle of a minute. -/
def strayLeap : Timestamp where
  date := ⟨2024, 5, 6, by decide⟩
  hour := ⟨7, by decide⟩
  minute := ⟨8, by decide⟩
  second := ⟨30, by decide⟩
  nanosecond := ⟨1500000000, by decide⟩

/-- The last second that is printed is 60. -/
theorem shownSecond_le (time : Timestamp) : time.shownSecond ≤ 60 := by
  have second := time.second.isLt
  unfold shownSecond
  split <;> omega

/-- Less than a second is printed as a fraction. -/
theorem shownNanosecond_lt (time : Timestamp) : time.shownNanosecond < nanosecondsPerSecond := by
  have nanosecond := time.nanosecond.isLt
  unfold shownNanosecond nanosecondsPerSecond
  split <;> omega

/-! ### Reading the printed form -/

/-- The fields that a timestamp is printed with. -/
def fields (time : Timestamp) : Fields where
  year := time.date.year
  month := time.date.month
  day := time.date.day
  hour := time.hour
  minute := time.minute
  second := time.shownSecond
  nanosecond := time.shownNanosecond
  offset := 0

/-- The lenient reader finds the fields that were printed. -/
theorem lenientFields?_chars (time : Timestamp) :
    lenientFields? time.chars = some time.fields := by
  have month := time.date.month_bounds
  have day := time.date.day_le
  have hour := time.hour.isLt
  have minute := time.minute.isLt
  have second := time.shownSecond_le
  have hyphen := spacedExactly_cons (c := '-') (by decide)
  have colon := spacedExactly_cons (c := ':') (by decide)
  have letter (rest : List Char) : separator ('T' :: rest) = some rest := rfl
  have fraction := fraction_fractionText time.shownNanosecond_lt []
  have ends : spacedZone ['Z'] = some (0, []) := by decide
  simp only [chars, List.append_assoc, List.cons_append]
  refine Option.bind_eq_some_iff.mpr ⟨_, spacedYear_yearText _ _, ?_⟩
  refine Option.bind_eq_some_iff.mpr ⟨_, hyphen _, ?_⟩
  refine Option.bind_eq_some_iff.mpr ⟨_, spacedNumber_padded (by omega) _, ?_⟩
  refine Option.bind_eq_some_iff.mpr ⟨_, hyphen _, ?_⟩
  refine Option.bind_eq_some_iff.mpr ⟨_, spacedNumber_padded (by omega) _, ?_⟩
  refine Option.bind_eq_some_iff.mpr ⟨_, letter _, ?_⟩
  refine Option.bind_eq_some_iff.mpr ⟨_, spacedNumber_padded (by omega) _, ?_⟩
  refine Option.bind_eq_some_iff.mpr ⟨_, colon _, ?_⟩
  refine Option.bind_eq_some_iff.mpr ⟨_, spacedNumber_padded (by omega) _, ?_⟩
  refine Option.bind_eq_some_iff.mpr ⟨_, colon _, ?_⟩
  refine Option.bind_eq_some_iff.mpr ⟨_, spacedNumber_padded (by omega) _, ?_⟩
  refine Option.bind_eq_some_iff.mpr ⟨_, fraction, ?_⟩
  exact Option.bind_eq_some_iff.mpr ⟨_, ends, rfl⟩

/-- Clocks that show universal time show the instant itself. -/
@[simp]
theorem atOffset?_zero (time : Timestamp) : atOffset? time 0 = some time := by
  have hour := time.hour.isLt
  have minute := time.minute.isLt
  have within : (time.hour.val * 60 + time.minute.val : Int) < minutesPerDay := by
    simp only [minutesPerDay]
    omega
  have minuteOfDay :
      ((time.hour.val * 60 + time.minute.val : Int) % (minutesPerDay : Nat)).toNat =
        time.hour.val * 60 + time.minute.val := by
    simp only [minutesPerDay]
    omega
  have hours : (time.hour.val * 60 + time.minute.val) / 60 = time.hour.val := by omega
  have minutes : (time.hour.val * 60 + time.minute.val) % 60 = time.minute.val := by omega
  have future : ¬ (time.hour.val * 60 + time.minute.val : Int) < 0 := by omega
  simp only [atOffset?, Int.sub_zero, future, within, if_true, if_false, minuteOfDay, hours,
    minutes, Option.map_some, Fin.ofNat_val_eq_self]

/-- The second and the nanoseconds of a settled timestamp are those that are read for the printed
ones. -/
theorem settled_eq (time : Timestamp) :
    time.settled.second.val = min time.shownSecond 59 ∧
      time.settled.nanosecond.val =
        (if time.shownSecond = 60 then nanosecondsPerSecond else 0) + time.shownNanosecond := by
  have second := time.second.isLt
  unfold settled shownSecond shownNanosecond
  by_cases leap : time.nanosecond.val < nanosecondsPerSecond
  · have ordinary : ¬ (nanosecondsPerSecond ≤ time.nanosecond.val ∧ time.second.val < 59) := by
      omega
    simp only [dif_neg ordinary, if_pos leap]
    refine ⟨by omega, ?_⟩
    split <;> omega
  · by_cases stray : time.second.val < 59
    · simp only [dif_pos (And.intro (Nat.le_of_not_lt leap) stray), if_neg leap]
      refine ⟨by omega, ?_⟩
      split <;> omega
    · have last : ¬ (nanosecondsPerSecond ≤ time.nanosecond.val ∧ time.second.val < 59) := by omega
      simp only [dif_neg last, if_neg leap]
      refine ⟨by omega, ?_⟩
      split <;> omega

/-- Only the second and the nanoseconds are settled. -/
theorem settled_others (time : Timestamp) :
    time.settled.date = time.date ∧ time.settled.hour = time.hour ∧
      time.settled.minute = time.minute := by
  unfold settled
  split <;> exact ⟨rfl, rfl, rfl⟩

/-- The fields of a timestamp name it once its leap second is settled. -/
theorem timestamp?_fields (time : Timestamp) : time.fields.timestamp? = some time.settled := by
  have within : time.hour.val < 24 ∧ time.minute.val < 60 ∧ time.shownSecond < 61 ∧
      time.shownNanosecond < nanosecondsPerSecond ∧ (0 : Int).natAbs < minutesPerDay :=
    ⟨time.hour.isLt, time.minute.isLt, Nat.lt_succ_of_le time.shownSecond_le,
      time.shownNanosecond_lt, by decide⟩
  obtain ⟨second, nanosecond⟩ := time.settled_eq
  obtain ⟨date, hour, minute⟩ := time.settled_others
  simp only [Fields.timestamp?, fields, Date.of?_self, Option.bind_eq_bind, Option.bind_some,
    atOffset?_zero, dif_pos within]
  exact congrArg some (Timestamp.ext date.symm hour.symm minute.symm (Fin.ext second.symm)
    (Fin.ext nanosecond.symm))

/-- What is read from the printed form of a timestamp is the timestamp settled. -/
theorem lenient?_text (time : Timestamp) : lenient? time.text = some time.settled := by
  rw [lenient?, text, String.toList_ofList, lenientFields?_chars]
  exact timestamp?_fields time

end Notebook.Timestamp
